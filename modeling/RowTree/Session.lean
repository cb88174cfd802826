import RowTree.Reply
import RowTree.Sql.Statement

/-!
# Sessions

A session executes statements one after the other and keeps a log of them, also
when it fails. A driver is a database as a session sees it: its reply to a
statement may depend on all statements before.
-/

namespace RowTree

/-- The statements executed so far, the latest last. -/
abbrev Log := List Sql.Statement

abbrev Driver := Log → Sql.Statement → Except Error Reply

def Session (α : Type) := Log → Except Error α × Log

namespace Session

variable {α β : Type}

def run (session : Session α) (log : Log) : Except Error α × Log := session log

def ofExcept (result : Except Error α) : Session α := fun log => (result, log)

instance : Monad Session where
  pure v := ofExcept (.ok v)
  bind session next := fun log =>
    match session log with
    | (.ok v, log) => next v log
    | (.error e, log) => (.error e, log)

@[simp] theorem run_pure (v : α) (log : Log) : run (pure v) log = (.ok v, log) := rfl

@[simp] theorem run_ofExcept (result : Except Error α) (log : Log) :
    run (ofExcept result) log = (result, log) := rfl

theorem run_bind (session : Session α) (next : α → Session β) (log : Log) :
    run (session >>= next) log =
      match run session log with
      | (.ok v, log) => run (next v) log
      | (.error e, log) => (.error e, log) := rfl

theorem bind_ok (session : Session α) : (session >>= fun v => pure v) = session := by
  funext log
  change (match session log with
    | (.ok v, log) => ((.ok v : Except Error _), log)
    | (.error e, log) => (.error e, log)) = session log
  rcases session log with ⟨_ | _, _⟩ <;> rfl

theorem bind_assoc {γ : Type} (session : Session α) (f : α → Session β) (g : β → Session γ) :
    (session >>= f) >>= g = session >>= fun v => f v >>= g := by
  funext log
  change (match (match session log with
      | (.ok v, log) => f v log
      | (.error e, log) => (.error e, log)) with
    | (.ok v, log) => g v log
    | (.error e, log) => (.error e, log)) =
    (match session log with
      | (.ok v, log) => (match f v log with
        | (.ok v, log) => g v log
        | (.error e, log) => (.error e, log))
      | (.error e, log) => (.error e, log))
  rcases session log with ⟨_ | _, _⟩ <;> rfl

instance : LawfulMonad Session :=
  LawfulMonad.mk' Session bind_ok (fun _ _ => rfl) bind_assoc

/-- Runs a session to its end whether it fails or not. -/
def attempt (session : Session α) : Session (Except Error α) := fun log =>
  (.ok (session log).1, (session log).2)

def within (session : Session α) (outer : Fault) : Session α := fun log =>
  ((session log).1.mapError (·.within outer), (session log).2)

end Session

/-- Executes a statement. It counts as executed when it fails, too. -/
def Driver.execute (driver : Driver) (s : Sql.Statement) : Session Reply := fun log =>
  (driver log s, log ++ [s])

end RowTree
