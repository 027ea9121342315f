import CloudCredentials.Text.Alphanumeric
import CloudCredentials.Text.Blank
import CloudCredentials.Text.Separated
import CloudCredentials.World.Event

/-!
# Log filters

A filter is a list of directives. Each lets the events of some targets through up to a level, and
of those that apply to a target the most specific one decides, which is the one with the longest
target, and the last of equally long ones. `Filter.allows_ofLevel` says what a filter with a bare
level lets through.
-/

namespace CloudCredentials

/-- The number that a text of decimal digits denotes. One plus sign may stand in front. -/
def unsignedNumber? (text : String) : Option Nat :=
  let digits := (Text.after? ['+'] text.toList).getD text.toList
  if digits ≠ [] ∧ digits.all Char.isDigit then
    some (digits.foldl (fun value digit => value * 10 + (digit.toNat - '0'.toNat)) 0)
  else none

/-- The level that a text names, by its name in either case or by its place in the order. -/
def Level.read? (text : String) : Option Level :=
  match unsignedNumber? text with
  | some rank => Level.ofRank? rank
  | none => Level.all.find? (·.name == String.ofList (text.toList.map Char.toUpper))

/-- The name of a level in lower case. -/
def Level.lowerName (level : Level) : String :=
  String.ofList (level.name.toList.map Char.toLower)

namespace Log

/-- How far a directive lets events through, as the greatest rank of level. Zero lets none
through. -/
abbrev Threshold := Nat

/-- The threshold that lets no event through, and the word for it. -/
def off : Threshold × String := (0, "OFF")

/-- The threshold that a text names. No text stands for the most severe level. -/
def readThreshold? (text : String) : Option Threshold :=
  let upper := String.ofList (text.toList.map Char.toUpper)
  if text = "" then some Level.error.rank
  else if unsignedNumber? text = some off.1 ∨ upper = off.2 then some off.1
  else (Level.read? text).map Level.rank

/-- A directive: the start of the targets to which it applies, if it does not apply to all, and how
far it lets their events through. -/
structure Directive where
  target : Option String
  threshold : Threshold
deriving DecidableEq, Repr

namespace Directive

/-- The directive applies to a target. -/
def appliesTo (directive : Directive) (target : String) : Bool :=
  match directive.target with
  | none => true
  | some start => (Text.after? start.toList target.toList).isSome

/-- How specific a directive is. -/
def weight (directive : Directive) : Nat :=
  match directive.target with
  | none => 0
  | some start => start.utf8ByteSize + 1

/-- A directive may start with the character. -/
def isStart (character : Char) : Bool :=
  Text.isAlphanumeric character || character == '-' || character == ':' || character == '_' ||
    character == '['

/-- The directive that a text states: a target, an equals sign and a level, where no level stands
for all of them, or a level alone, or a target alone. The place of the sign is counted without the
blanks at the start of the text, and the text is cut with them. -/
def read? (text : List Char) : Option Directive :=
  match Text.trim text with
  | [] => none
  | first :: rest =>
      if isStart first then
        let place := ((first :: rest).takeWhile (· != '=')).length
        if place < (first :: rest).length then
          let level := String.ofList (text.drop (place + 1))
          let target := some (String.ofList (text.take place))
          if level = "" then some ⟨target, Level.trace.rank⟩
          else (readThreshold? level).map fun threshold => ⟨target, threshold⟩
        else
          match readThreshold? (String.ofList text) with
          | some threshold => some ⟨none, threshold⟩
          | none => some ⟨some (String.ofList text), Level.trace.rank⟩
      else none

end Directive

/-- Which events are written, by directives. -/
structure Filter where
  directives : List Directive
deriving DecidableEq, Repr

namespace Filter

/-- The filter that lets events of all targets through up to a level. -/
def ofLevel (level : Level) : Filter := ⟨[⟨none, level.rank⟩]⟩

/-- The more specific of two directives, and the second of equally specific ones. -/
def preferred (held : Option Directive) (next : Directive) : Option Directive :=
  match held with
  | none => some next
  | some held => if held.weight ≤ next.weight then some next else some held

/-- The directive that decides about the events of a target. -/
def decisive? (filter : Filter) (target : String) : Option Directive :=
  (filter.directives.filter (·.appliesTo target)).foldl preferred none

/-- The filter lets the event through. -/
def allows (filter : Filter) (event : Event) : Bool :=
  match filter.decisive? event.speaker.target with
  | some directive => event.level.rank ≤ directive.threshold
  | none => false

/-- The texts of the directives in a text, which has commas between them. -/
def pieces (text : String) : List (List Char) :=
  (Text.separate (· == ',') text.toList).filter (· ≠ [])

/-- The filter with these directives. Without any it lets the most severe events through. -/
def ofDirectives : List Directive → Filter
  | [] => ofLevel .error
  | directives => ⟨directives⟩

/-- The filter that a text states. One wrong directive makes the text no filter. -/
def read? (text : String) : Option Filter :=
  ((pieces text).mapM Directive.read?).map ofDirectives

/-- The filter that a text states, with its wrong directives left out. -/
def ofText (text : String) : Filter :=
  ofDirectives ((pieces text).filterMap Directive.read?)

/-- A filter with a bare level lets through what is at least as severe. -/
theorem allows_ofLevel (level : Level) (event : Event) :
    (ofLevel level).allows event = decide (event.level.rank ≤ level.rank) := by
  simp [allows, decisive?, ofLevel, Directive.appliesTo, preferred]

/-- The name of a level in lower case states the filter with that level. -/
theorem ofText_lowerName (level : Level) : ofText level.lowerName = ofLevel level := by
  cases level <;> decide +kernel

end Filter

end Log

end CloudCredentials
