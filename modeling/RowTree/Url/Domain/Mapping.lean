import RowTree.Text.Composition
import RowTree.Url.Domain.MappingTable

/-!
# Mapped texts

The text that a domain is read as: every character is mapped, and the result is
put together. A mapped text is one that the mapping leaves as it is.
-/

namespace RowTree.Url.Domain

/-- What stands for a character of a run, unless it is refused. -/
def MappingRule.apply? (rule : MappingRule) (offset : Nat) (c : Char) : Option (List Char) :=
  match rule with
  | keep => some [c]
  | drop => some []
  | refuse => none
  | constant text => some text
  | translate first => some [Char.ofNat (first + offset)]
  | alternate => some [if offset % 2 = 0 then Char.ofNat (c.toNat + 1) else c]

def mapCharacter? (c : Char) : Option (List Char) :=
  (mappingRuns.find? c).bind fun run => run.value.apply? (c.toNat - run.start) c

def mapText? (text : List Char) : Option (List Char) :=
  (text.mapM mapCharacter?).map fun parts => Text.composedForm parts.flatten

def isMapped (text : List Char) : Bool :=
  text.all (fun c => mapCharacter? c == some [c]) && Text.composedForm text == text

end RowTree.Url.Domain
