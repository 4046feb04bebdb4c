import ServicePublisher.Level
import ServicePublisher.Pattern.Expression
import ServicePublisher.Text.Bytes
import ServicePublisher.Text.Decimal
import ServicePublisher.Text.Integer
import ServicePublisher.Text.Split

/-! Which log lines pass. A filter is a list of directives separated by commas; each sets a level
for the targets that begin with its name, and the most specific directive decides. A directive that
names a span, or the value of a field, speaks of lines inside such spans only. -/
namespace ServicePublisher

/-- One directive. Without a level nothing passes. -/
structure Directive where
  target : Option String := none
  inSpan : Bool := false
  field : Option String := none
  level : Option Level := some .trace
deriving DecidableEq, Repr

namespace Directive

/-- Whether a directive concerns the lines of a target outside spans, if they have the right
field. -/
def concerns (d : Directive) (target : String) : Bool :=
  !d.inSpan && (d.target.all fun t => t.toList.isPrefixOf target.toList)

/-- How specific a target is: the more so, the longer it is. -/
def weight (d : Directive) : Nat := (d.target.map fun t => t.utf8ByteSize + 1).getD 0

/-- The order of directives from the least specific on. After the targets the fields decide: to ask
for one is more specific, and of two the greater name comes first. -/
def compareSpecific (d e : Directive) : Ordering :=
  (compare d.weight e.weight).then (compare d.field e.field)

/-- The more specific of two directives; of equally specific ones, the later. -/
def prefer (best : Option Directive) (d : Directive) : Option Directive :=
  match best with
  | some b => if d.compareSpecific b = .lt then some b else some d
  | none => some d

end Directive

structure LogFilter where
  directives : List Directive
deriving DecidableEq, Repr

namespace LogFilter

/-- A level written as a number, from nothing at all to every line. -/
def numberedLevel? (cs : List Char) : Option (Option Level) :=
  let digits := match cs with
    | '+' :: rest => rest
    | _ => cs
  match Text.natural? digits with
  | some 0 => some none
  | some n => (Level.all.find? (·.rank = n)).map some
  | none => none

def level? (cs : List Char) : Option (Option Level) :=
  match numberedLevel? cs with
  | some l => some l
  | none =>
    let word := String.ofList (cs.map Char.toUpper)
    if word = "OFF" then some none
    -- An empty word stands for the gravest level.
    else if cs.isEmpty then some (some .error)
    else (Level.all.find? (·.name = word)).map some

/-- A part of a directive is made out in the directive without its outer blanks, yet it is taken
from the directive with them: it is the text in the place where the part begins and ends
otherwise. -/
def partOf? (directive before part : List Char) : Option (List Char) :=
  (Text.dropBytes? (Text.byteSize before) directive).bind (Text.takeBytes? (Text.byteSize part))

theorem partOf?_append (before part rest : List Char) :
    partOf? (before ++ (part ++ rest)) before part = some part := by
  simp [partOf?, Text.dropBytes?_byteSize_append, Text.takeBytes?_byteSize_append]

/-- What follows the name of a target or a span: nothing, or an equals sign with a level, which goes
on to the end of the directive. Every line passes if the level is left out. -/
def levelAfter? (directive before : List Char) : List Char → Option (Option Level)
  | [] => some (some .trace)
  | '=' :: _ =>
    match Text.dropBytes? (Text.byteSize (before ++ ['='])) directive with
    | some [] => some (some .trace)
    | some cs => level? cs
    | none => none
  | _ => none

def isValue (cs : List Char) : Bool := Text.isDecimal cs || Pattern.isUsable cs

/-- The name of a field, and whether a value of it is asked for after an equals sign. What follows a
second such sign does not count. -/
def field? (cs : List Char) : Option (String × Bool) :=
  match Text.pieces '=' cs with
  | [name] => if name.isEmpty then none else some (String.ofList name, false)
  | name :: value :: _ => if isValue value then some (String.ofList name, true) else none
  | [] => none

/-- A span in brackets, perhaps with a field in braces, after the name of a target, if there is
one. -/
def spanAfter? (directive before : List Char) (target : Option String) (cs : List Char) :
    Option Directive :=
  let name := cs.takeWhile fun c => c ≠ ']' ∧ c ≠ '\x7b'
  let before := before ++ name
  match cs.drop name.length with
  | ']' :: rest =>
    (levelAfter? directive (before ++ [']']) rest).map fun level =>
      { target, inSpan := true, level }
  | '\x7b' :: rest =>
    let text := rest.takeWhile (· ≠ '\x7d')
    match rest.drop text.length with
    | '\x7d' :: ']' :: rest => do
      let before := before ++ ['\x7b']
      let (field, asksValue) ← (partOf? directive before text).bind field?
      let level ← levelAfter? directive (before ++ text ++ ['\x7d', ']']) rest
      return { target, inSpan := !name.isEmpty || asksValue, field := some field, level }
    | _ => none
  | _ => none

/-- A directive begins with a letter, a number, or one of three signs, unless it begins with a
span. -/
def startsName (c : Char) : Bool := c = '-' || c = ':' || c = '_' || Text.isAlphanumeric c

def directive? (directive : List Char) : Option Directive :=
  match Text.trimmed directive with
  | [] => none
  | '[' :: cs => spanAfter? directive ['['] none cs
  | c :: cs =>
    if !startsName c then none
    else
      let name := (c :: cs).takeWhile fun c => c ≠ '=' ∧ c ≠ '['
      match (c :: cs).drop name.length with
      | [] =>
        -- A word alone is a level if there is one of this name, and else a target.
        match level? directive with
        | some level => some { level }
        | none => some { target := some (String.ofList directive) }
      | rest => do
        let target := some (String.ofList (← partOf? directive [] name))
        match rest with
        | '[' :: rest => spanAfter? directive (name ++ ['[']) target rest
        | rest => return { target, level := ← levelAfter? directive name rest }

/-- Reads a filter; empty directives do not count. -/
def ofText? (s : String) : Option LogFilter :=
  (((Text.pieces ',' s.toList).filter fun d => !d.isEmpty).mapM directive?).map LogFilter.mk

def informative : LogFilter := ⟨[{ level := some .info }]⟩

/-- The filter of a setting. One that is missing or cannot be read counts as informative. -/
def ofSetting (s : Option String) : LogFilter := (s.bind ofText?).getD informative

def decisive (f : LogFilter) (target : String) : Option Directive :=
  (f.directives.filter (Directive.concerns · target)).foldl Directive.prefer none

/-- Whether lines of a target and a level can pass while their fields are not known. -/
def enables (f : LogFilter) (target : String) (level : Level) : Bool :=
  match (f.decisive target).bind Directive.level with
  | some most => level.rank ≤ most.rank
  | none => false

end LogFilter

end ServicePublisher
