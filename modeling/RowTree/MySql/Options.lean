import RowTree.Error
import RowTree.Text.Digit

/-!
# Options of a MySQL connection

The options that the query of a connection URL may set, each with the values
that it takes. They are read in their order, and the first one that is unknown
or has a bad value is reported.
-/

namespace RowTree.MySql

inductive OptionKind where
  /-- A natural number of so many bits. -/
  | number (bits : Nat)
  | flag
  | compression
  | text

def numberOptions : List String :=
  ["pool_min", "pool_max", "inactive_connection_ttl", "ttl_check_interval", "conn_ttl",
    "abs_conn_ttl", "abs_conn_ttl_jitter", "max_allowed_packet", "wait_timeout",
    "stmt_cache_size"]

def flagOptions : List String :=
  ["enable_cleartext_plugin", "reset_connection", "tcp_nodelay", "prefer_socket", "secure_auth",
    "client_found_rows", "require_ssl", "verify_ca", "verify_identity", "built_in_roots"]

def optionKind? (name : String) : Option OptionKind :=
  if numberOptions.contains name then some (.number 64)
  else if flagOptions.contains name then some .flag
  else
    match name with
    | "tcp_keepalive" => some (.number 32)
    | "compression" => some .compression
    | "socket" => some .text
    | _ => none

/-- Digits, perhaps after a plus. -/
def optionNumber? (bits : Nat) (value : String) : Option Nat :=
  let digits :=
    match value.toList with
    | '+' :: rest => rest
    | text => text
  (Text.natural? digits).filter (· < Nat.pow 2 bits)

/-- A compression is named, or is a level of one digit. -/
def isCompression (value : String) : Bool :=
  ["fast", "on", "true", "best"].contains value ||
    match value.toList with
    | [level] => level.isDigit
    | _ => false

def OptionKind.accepts (kind : OptionKind) (value : String) : Bool :=
  match kind with
  | number bits => (optionNumber? bits value).isSome
  | flag => value == "true" || value == "false"
  | compression => isCompression value
  | text => true

/-- The name that a complaint about the value of an option gives it: one of them
is named with its unit. -/
def reportedName (name : String) : String :=
  if name = "tcp_keepalive" then "tcp_keepalive_ms" else name

def checkOption (name value : String) : Except ConnectionProblem Unit :=
  match optionKind? name with
  | none => .error (.unknownOption name)
  | some kind =>
    if kind.accepts value then .ok () else .error (.optionValue (reportedName name) value)

def lastNumber? (options : List (String × String)) (name : String) : Option Nat :=
  (options.reverse.lookup name).bind (optionNumber? 64)

/-- Every option must be good, and the pool must have no more connections at
least than at most. -/
def checkOptions (options : List (String × String)) : Except ConnectionProblem Unit := do
  options.forM fun option => checkOption option.1 option.2
  let least := (lastNumber? options "pool_min").getD 10
  let most := (lastNumber? options "pool_max").getD 100
  if most < least then throw (.poolBounds least most)

end RowTree.MySql
