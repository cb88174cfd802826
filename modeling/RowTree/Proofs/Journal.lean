import RowTree.Proofs.Dues

/-!
# The journal of a save

Every statement that a save executes is a write that was due, and the writes
come in the order in which they are due. A write below a row follows the write
of that row, which succeeded, and has the value that it hands on. This holds of
every driver, whether the save fails or not; if it does not fail, nothing that
was due is left out.
-/

namespace RowTree

open Schema Sql

/-- A write that was executed: what was due, the value that the row was handed,
the statement and the reply to it. -/
structure Write where
  due : Due
  value : Value
  statement : Statement
  reply : Except Error Reply

/-- The value by which the children of a row that was just inserted are found. If
that is its key, it is what the database assigned, or what the row has itself, or
its temporary id. -/
def insertedKey (entity : Entity) (row : Row) (reply : Reply) (field : String) : Value :=
  let own := (fillGuids entity row).get field
  if entity.instanceKey?.any (·.name == field) then
    match reply.lastId? with
    | some id => Value.ofUInt64 id
    | none => if own.isNull then Value.ofOption row.tempId else own
  else own

namespace Write

def row (write : Write) : Row := write.due.written write.value

def outcome (write : Write) : Except Error Unit := do
  let reply ← write.reply
  match write.due.kind with
  | .insert => .ok ()
  | .update => reply.toCount.map fun _ => ()
  | .delete => checkDeleted write.due.entity write.row reply

def Succeeded (write : Write) : Prop := write.outcome = .ok ()

/-- The driver was given the statement that writes the row, after all of `log`. -/
def Issued (driver : Driver) (log : Log) (write : Write) : Prop :=
  write.due.statement write.value = .ok (some write.statement) ∧
    write.reply = driver log write.statement

def handsOn (write : Write) (link : ParentLink) : Value :=
  match write.reply with
  | .ok reply => insertedKey write.due.entity write.row reply link.parentField
  | .error _ => .null

/-- The key that the database reports for an insert. -/
def assigned? (write : Write) : Option Value :=
  match write.reply with
  | .ok reply => reply.lastId?.map Value.ofUInt64
  | .error _ => none

/-- A row that was inserted stands in its place and has the key that the database
reported for it as its id, or else its temporary id. -/
def GivesId (write : Write) (root : Row) : Prop :=
  write.due.kind = .insert → ∃ row, rowAt? root write.due.place = some row ∧
    row.id = (write.assigned? <|> write.due.row.tempId)

/-- It gives the id in every tree that has the row at the place. -/
def GivesIdAt (place : Place) (row : Row) (write : Write) : Prop :=
  ∀ root, rowAt? root place = some row → write.GivesId root

end Write

def logAfter (log : Log) (writes : List Write) : Log := log ++ writes.map (·.statement)

/-- If a write was due for the row at a place, it succeeded before; and if that was
an insert, `v` is what it hands on to the entity. -/
def Ready (before : List Write) (place : Place) (above : Option WriteKind) (entity : Entity)
    (v : Value) : Prop :=
  ∀ kind, above = some kind → ∃ parent ∈ before, parent.due.place = place ∧
    parent.due.kind = kind ∧ parent.Succeeded ∧
      (kind = .insert → ∀ link, entity.parentLink = some link → v = parent.handsOn link)

def Follows (driver : Driver) (log : Log) (before : List Write) (write : Write) : Prop :=
  write.Issued driver (logAfter log before) ∧
    Ready before write.due.place.tail write.due.above write.due.entity write.value

/-- After the writes `done`, the writes `writes` led to the log `later`. All of
them were due, and all that was due was written if `finished`. -/
structure Journal (driver : Driver) (log : Log) (done : List Write) (dues : List Due)
    (finished : Prop) (later : Log) (writes : List Write) : Prop where
  later_eq : later = logAfter log (done ++ writes)
  follows : ∀ before write after, writes = before ++ write :: after →
    Follows driver log (done ++ before) write
  due : (writes.map (·.due)).Sublist dues
  complete : finished → writes.map (·.due) = dues

/-- After the writes `done`, a session writes what is due; and what it gives tells something of
each of these writes. -/
def Performs {α : Type} (driver : Driver) (log : Log) (done : List Write) (dues : List Due)
    (tells : α → Write → Prop) (session : Session α) : Prop :=
  ∃ writes, Journal driver log done dues (∃ v, (session.run (logAfter log done)).1 = .ok v)
      (session.run (logAfter log done)).2 writes ∧
    ∀ v, (session.run (logAfter log done)).1 = .ok v → ∀ write ∈ writes, tells v write

theorem logAfter_append (log : Log) (ws vs : List Write) :
    logAfter log (ws ++ vs) = logAfter log ws ++ vs.map (·.statement) := by
  simp [logAfter]

theorem Ready.append {before : List Write} {place : Place} {above : Option WriteKind}
    {entity : Entity} {v : Value} (h : Ready before place above entity v) (more : List Write) :
    Ready (before ++ more) place above entity v := by
  intro kind hKind
  obtain ⟨parent, hParent, h⟩ := h kind hKind
  exact ⟨parent, List.mem_append_left _ hParent, h⟩

theorem ready_none {before : List Write} {place : Place} {entity : Entity} {v : Value} :
    Ready before place none entity v := by
  intro kind hKind
  cases hKind

section

variable {driver : Driver} {log : Log} {done : List Write}

namespace Journal

theorem nil {finished : Prop} {later : Log} (hLater : later = logAfter log done)
    {dues : List Due} (hFinished : finished → dues = []) :
    Journal driver log done dues finished later [] where
  later_eq := by rw [hLater, List.append_nil]
  follows before write after h := by simp at h
  due := List.nil_sublist _
  complete h := (hFinished h).symm

theorem append {dues₁ dues₂ : List Due} {finished₁ finished₂ finished : Prop}
    {later₁ later₂ : Log} {writes₁ writes₂ : List Write}
    (h₁ : Journal driver log done dues₁ finished₁ later₁ writes₁)
    (h₂ : Journal driver log (done ++ writes₁) dues₂ finished₂ later₂ writes₂)
    (hFinished : finished → finished₁ ∧ finished₂) :
    Journal driver log done (dues₁ ++ dues₂) finished later₂ (writes₁ ++ writes₂) where
  later_eq := by rw [h₂.later_eq, List.append_assoc]
  follows before write after hSplit := by
    rcases List.append_eq_append_iff.mp hSplit with ⟨rest, rfl, hRest⟩ | ⟨rest, hBefore, hAfter⟩
    · rw [← List.append_assoc]
      exact h₂.follows rest write after hRest
    · cases rest with
      | nil =>
        rw [List.append_nil] at hBefore
        subst hBefore
        rw [List.nil_append] at hAfter
        have hFollows := h₂.follows [] write after hAfter.symm
        rwa [List.append_nil] at hFollows
      | cons first rest =>
        cases hAfter
        exact h₁.follows before write rest hBefore
  due := by
    rw [List.map_append]
    exact h₁.due.append h₂.due
  complete h := by
    obtain ⟨hFinished₁, hFinished₂⟩ := hFinished h
    rw [List.map_append, h₁.complete hFinished₁, h₂.complete hFinished₂]

theorem leave {dues₁ : List Due} {finished₁ finished : Prop} {later : Log} {writes : List Write}
    (h : Journal driver log done dues₁ finished₁ later writes) (dues₂ : List Due)
    (hFinished : ¬finished) :
    Journal driver log done (dues₁ ++ dues₂) finished later writes where
  later_eq := h.later_eq
  follows := h.follows
  due := h.due.trans (List.sublist_append_left _ _)
  complete hf := absurd hf hFinished

theorem weaken {dues : List Due} {finished₁ finished₂ : Prop} {later : Log} {writes : List Write}
    (h : Journal driver log done dues finished₁ later writes)
    (hFinished : finished₂ → finished₁) : Journal driver log done dues finished₂ later writes :=
  { h with complete := fun hf => h.complete (hFinished hf) }

theorem single {write : Write} (h : Follows driver log done write) (finished : Prop) :
    Journal driver log done [write.due] finished
      (logAfter log done ++ [write.statement]) [write] where
  later_eq := by rw [logAfter_append, List.map_singleton]
  follows before other after hSplit := by
    cases before with
    | nil =>
      cases hSplit
      rwa [List.append_nil]
    | cons first rest => simp at hSplit
  due := List.Sublist.refl _
  complete _ := rfl

end Journal

namespace Performs

variable {α β : Type} {tells : α → Write → Prop} {dues dues₁ dues₂ : List Due}
  {session : Session α}

theorem pure (v : α) : Performs driver log done [] tells (Pure.pure v : Session α) :=
  ⟨[], .nil rfl fun _ => rfl, fun _ _ => List.forall_mem_nil _⟩

theorem imp {told : α → Write → Prop} (h : Performs driver log done dues told session)
    (hTells : ∀ v, session.Gives v → ∀ write, told v write → tells v write) :
    Performs driver log done dues tells session := by
  obtain ⟨writes, hJournal, hTold⟩ := h
  refine ⟨writes, hJournal, fun v hv write hWrite => ?_⟩
  exact hTells v ⟨_, hv⟩ write (hTold v hv write hWrite)

/-- What the first session tells has to be seen from what comes of the whole. -/
theorem bind {next : α → Session β} {told : α → Write → Prop} {tells : β → Write → Prop}
    (h : Performs driver log done dues₁ told session)
    (hKeep : ∀ v w, (next v).Gives w → ∀ write, told v write → tells w write)
    (hNext : ∀ v writes, Performs driver log (done ++ writes) dues₂ tells (next v)) :
    Performs driver log done (dues₁ ++ dues₂) tells (session >>= next) := by
  obtain ⟨writes, h, hTold⟩ := h
  unfold Performs
  rw [Session.run_bind]
  rcases hRun : session.run (logAfter log done) with ⟨_ | v, later⟩
  · rw [hRun] at h
    exact ⟨writes, h.leave dues₂ (by rintro ⟨_, hv⟩; cases hv), fun _ hv => by cases hv⟩
  · rw [hRun] at h hTold
    obtain ⟨more, hMore, hTells⟩ := hNext v writes
    rw [← h.later_eq] at hMore hTells
    refine ⟨writes ++ more, h.append hMore fun hv => ⟨⟨v, rfl⟩, hv⟩, fun w hw => ?_⟩
    rw [List.forall_mem_append]
    exact ⟨fun write hWrite => hKeep v w ⟨_, hw⟩ write (hTold v rfl write hWrite), hTells w hw⟩

theorem afterCheck {result : Except Error β} {next : β → Session α}
    (h : ∀ v, result = .ok v → Performs driver log done dues tells (next v)) :
    Performs driver log done dues tells (Session.ofExcept result >>= next) := by
  cases result with
  | error e => exact ⟨[], .nil rfl (by rintro ⟨_, hv⟩; cases hv), fun _ _ => List.forall_mem_nil _⟩
  | ok v => exact h v rfl

theorem within (h : Performs driver log done dues tells session) (outer : Fault) :
    Performs driver log done dues tells (session.within outer) := by
  obtain ⟨writes, h, hTells⟩ := h
  have hResult : ∀ v, ((session.within outer).run (logAfter log done)).1 = .ok v →
      (session.run (logAfter log done)).1 = .ok v := by
    intro v hv
    change ((session.run (logAfter log done)).1.mapError (·.within outer)) = .ok v at hv
    cases hRun : (session.run (logAfter log done)).1 with
    | error e =>
      rw [hRun] at hv
      cases hv
    | ok w =>
      rw [hRun] at hv
      exact hv
  refine ⟨writes, h.weaken ?_, fun v hv => hTells v (hResult v hv)⟩
  rintro ⟨v, hv⟩
  exact ⟨v, hResult v hv⟩

theorem mapM {dues : α → List Due} {told : Write → Prop} {f : α → Session β} {xs : List α}
    (h : ∀ x ∈ xs, ∀ more, Performs driver log (done ++ more) (dues x) (fun _ => told) (f x)) :
    Performs driver log done (xs.flatMap dues) (fun _ => told) (xs.mapM f) := by
  induction xs generalizing done with
  | nil =>
    rw [List.mapM_nil]
    exact Performs.pure []
  | cons x xs ih =>
    rw [List.mapM_cons, List.flatMap_cons]
    have hFirst := h x List.mem_cons_self []
    rw [List.append_nil] at hFirst
    refine hFirst.bind (fun _ _ _ _ hTold => hTold) fun v writes => ?_
    have hRest : Performs driver log (done ++ writes) (xs.flatMap dues) (fun _ => told)
        (xs.mapM f) := by
      refine ih fun y hy more => ?_
      rw [List.append_assoc]
      exact h y (List.mem_cons_of_mem _ hy) (writes ++ more)
    have hBoth : Performs driver log (done ++ writes) (xs.flatMap dues ++ []) (fun _ => told)
        (xs.mapM f >>= fun vs => Pure.pure (v :: vs)) :=
      hRest.bind (fun _ _ _ _ hTold => hTold) fun _ _ => Performs.pure _
    rwa [List.append_nil] at hBoth

theorem write {due : Due} {v : Value} {s : Statement} {rest : List Due} {next : Reply → Session α}
    (hStatement : due.statement v = .ok (some s))
    (hReady : Ready done due.place.tail due.above due.entity v)
    (hKeep : ∀ reply w, (next reply).Gives w → tells w ⟨due, v, s, .ok reply⟩)
    (hNext : ∀ reply,
      Performs driver log (done ++ [⟨due, v, s, .ok reply⟩]) rest tells (next reply)) :
    Performs driver log done (due :: rest) tells (driver.execute s >>= next) := by
  have hWrite : Follows driver log done ⟨due, v, s, driver (logAfter log done) s⟩ :=
    ⟨⟨hStatement, rfl⟩, hReady⟩
  unfold Performs
  rw [Session.run_bind]
  have hRun : (driver.execute s).run (logAfter log done) =
      (driver (logAfter log done) s, logAfter log done ++ [s]) := rfl
  rw [hRun]
  cases hReply : driver (logAfter log done) s with
  | error e =>
    rw [hReply] at hWrite
    exact ⟨_, (Journal.single hWrite False).leave rest (by rintro ⟨_, hv⟩; cases hv),
      fun _ hv => by cases hv⟩
  | ok reply =>
    rw [hReply] at hWrite
    obtain ⟨more, hMore, hTells⟩ := hNext reply
    rw [logAfter_append] at hMore hTells
    refine ⟨_, (Journal.single hWrite True).append hMore fun hv => ⟨trivial, hv⟩, fun w hw => ?_⟩
    exact List.forall_mem_cons.mpr ⟨hKeep reply w ⟨_, hw⟩, hTells w hw⟩

end Performs

/-- Runs a session for each element, whether those before failed or not. -/
def runEach {α β : Type} (f : α → Session β) : List α → Log → List (Except Error β) × Log
  | [], log => ([], log)
  | x :: xs, log =>
    let first := (f x).run log
    let rest := runEach f xs first.2
    (first.1 :: rest.1, rest.2)

theorem run_mapM_attempt {α β : Type} (f : α → Session β) (xs : List α) (log : Log) :
    (xs.mapM fun x => (f x).attempt).run log =
      (.ok (runEach f xs log).1, (runEach f xs log).2) := by
  induction xs generalizing log with
  | nil => rfl
  | cons x xs ih =>
    rw [List.mapM_cons, Session.run_bind]
    have hFirst : ((f x).attempt).run log = (.ok ((f x).run log).1, ((f x).run log).2) := rfl
    simp only [hFirst, Session.run_bind, ih]
    rfl

theorem performs_each {α β : Type} {dues : α → List Due} {told : α → β → Write → Prop}
    {f : α → Session β} {xs : List α}
    (h : ∀ x ∈ xs, ∀ more, Performs driver log (done ++ more) (dues x) (told x) (f x)) :
    ∃ writes, Journal driver log done (xs.flatMap dues)
        (∀ result ∈ (runEach f xs (logAfter log done)).1, ∃ v, result = .ok v)
        (runEach f xs (logAfter log done)).2 writes ∧
      ∀ vs, List.Forall₂ (fun result v => result = .ok v) (runEach f xs (logAfter log done)).1 vs →
        ∀ write ∈ writes, ∃ entry ∈ xs.zip vs, told entry.1 entry.2 write := by
  induction xs generalizing done with
  | nil => exact ⟨[], .nil rfl fun _ => rfl, fun _ _ => List.forall_mem_nil _⟩
  | cons x xs ih =>
    have hFirst := h x List.mem_cons_self []
    rw [List.append_nil] at hFirst
    obtain ⟨writes, hFirst, hTold⟩ := hFirst
    have hLater : ∀ y ∈ xs, ∀ more,
        Performs driver log (done ++ writes ++ more) (dues y) (told y) (f y) := by
      intro y hy more
      rw [List.append_assoc]
      exact h y (List.mem_cons_of_mem _ hy) (writes ++ more)
    obtain ⟨more, hRest, hToldRest⟩ := ih hLater
    rw [← hFirst.later_eq] at hRest hToldRest
    refine ⟨writes ++ more, hFirst.append hRest fun hAll => ⟨?_, ?_⟩, fun _ hGiven => ?_⟩
    · exact hAll _ List.mem_cons_self
    · exact fun result hResult => hAll result (List.mem_cons_of_mem _ hResult)
    · obtain ⟨v, vs, hv, hvs, rfl⟩ := List.forall₂_cons_left_iff.mp hGiven
      rw [List.zip_cons_cons, List.forall_mem_append]
      constructor
      · exact fun write hWrite => ⟨(x, v), List.mem_cons_self, hTold v hv write hWrite⟩
      · intro write hWrite
        obtain ⟨entry, hEntry, hWrite⟩ := hToldRest vs hvs write hWrite
        exact ⟨entry, List.mem_cons_of_mem _ hEntry, hWrite⟩

theorem settle_eq_ok {entity : Entity} {results : List (Except Error Row)} {rows : List Row} :
    settle entity results = .ok rows ↔ List.Forall₂ (fun result row => result = .ok row) results
      rows := by
  have hResults : results.mapM id = .ok rows ↔
      List.Forall₂ (fun result row => result = .ok row) results rows := Outcome.mapM_eq_ok
  rw [settle, ← hResults]
  cases results.mapM id with
  | error e => constructor <;> intro h <;> cases h
  | ok saved => exact Iff.rfl

/-- Sessions side by side, whose failures are told together, perform what each
of them performs. -/
theorem performs_settled {α : Type} {dues : α → List Due} {told : α → Row → Write → Prop}
    {f : α → Session Row} {xs : List α} (entity : Entity)
    (h : ∀ x ∈ xs, ∀ more, Performs driver log (done ++ more) (dues x) (told x) (f x)) :
    Performs driver log done (xs.flatMap dues)
      (fun rows write => ∃ entry ∈ xs.zip rows, told entry.1 entry.2 write)
      ((xs.mapM fun x => (f x).attempt) >>= fun results =>
        Session.ofExcept (settle entity results)) := by
  obtain ⟨writes, hEach, hTold⟩ := performs_each h
  unfold Performs
  rw [Session.run_bind, run_mapM_attempt]
  refine ⟨writes, hEach.weaken ?_, fun rows hRows => hTold rows (settle_eq_ok.mp hRows)⟩
  rintro ⟨rows, hRows⟩ result hResult
  obtain ⟨row, _, hRow⟩ := Outcome.exists_of_mem_left (settle_eq_ok.mp hRows) hResult
  exact ⟨row, hRow⟩

end

end RowTree
