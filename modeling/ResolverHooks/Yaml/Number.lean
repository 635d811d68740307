import ResolverHooks.Document.Calendar
import ResolverHooks.Yaml.Resolution
import ResolverHooks.Yaml.Token

/-! What the text of a number, a truth value or a timestamp stands for. -/
namespace ResolverHooks.Yaml

open Numeral (dropSign isNegative integer? real? natural?)

def orBadNumber {α : Type} : Option α → Except Fault α
  | some a => .ok a
  | none => .error .badNumber

/-- Numbers separated by colons, each place worth sixty of the next. -/
def sexagesimal? (groups : List (List Char)) : Option Int :=
  groups.foldl (fun acc g => acc.bind fun n => (integer? 10 g).map fun d => n * 60 + d) (some 0)

def magnitudeOf (body : List Char) : Except Fault Int :=
  match body with
  | [] => .error .emptyNumber
  | ['0'] => .ok 0
  | '0' :: 'b' :: rest => orBadNumber (integer? 2 rest)
  | '0' :: 'x' :: rest => orBadNumber (integer? 16 rest)
  | '0' :: _ => orBadNumber (integer? 8 body)
  | _ =>
    if body.contains ':' then orBadNumber (sexagesimal? (body.splitOn ':'))
    else orBadNumber (integer? 10 body)

/-- The integer that a text stands for. Underscores count for nothing; the base is marked by `0b`,
`0x` or a leading zero. -/
def integerOf (text : String) : Except Fault Int := do
  let cs := text.toList.filter (· != '_')
  if cs.isEmpty then throw .emptyNumber
  let n ← magnitudeOf (dropSign cs)
  return if isNegative cs then -n else n

/-- Real numbers separated by colons, summed from the last place on. Each product and each sum is
rounded, and a place may be worth more than any double. -/
def sexagesimalReal (groups : List (List Char)) : Except Fault Double := do
  let digits ← orBadNumber (groups.mapM real?)
  let (total, _) ← digits.reverse.foldlM (fun (total, unit) d => do
    match Double.ofNat? unit with
    | some u => return (Double.add total (Double.mul d u), unit * 60)
    | none => throw .numberTooLarge) (Double.zero false, 1)
  return total

/-- The real number that a text stands for. One that is none has a mark, the same for all that are
written as a name of their own. -/
def realOf (mark : Nat) (text : String) : Except Fault Double := do
  let cs := (text.toList.filter (· != '_')).map Char.toLower
  if cs.isEmpty then throw .emptyNumber
  let body := dropSign cs
  if body = ".nan".toList then return Double.nan
  let d ←
    if body = ".inf".toList then pure (Double.infinity false)
    else if body.contains ':' then sexagesimalReal (body.splitOn ':')
    else orBadNumber (real? body)
  if d.isNaN then return Double.nanMarked mark
  return if isNegative cs then d.negate else d

/-- The truth value that a word stands for, in any case. -/
def flagOf (text : String) : Except Fault Bool :=
  let word := String.ofList (text.toList.map Char.toLower)
  if ["yes", "true", "on"].contains word then .ok true
  else if ["no", "false", "off"].contains word then .ok false
  else .error .badFlag

def naturalOf (ds : List Char) : Nat := (natural? 10 ds).getD 0

/-- A fraction of a second in microseconds; further digits are dropped. -/
def microsecondsOf (ds : List Char) : Nat :=
  let kept := ds.take 6
  naturalOf (kept ++ List.replicate (6 - kept.length) '0')

/-- The date or the moment that a timestamp stands for; both must exist in the calendar. -/
def timestampOf (text : String) : Except Fault (Date ⊕ Moment) :=
  match stamp? text.toList with
  | none => .error .notTimestamp
  | some s =>
    let date : Date := ⟨naturalOf s.year, naturalOf s.month, naturalOf s.day⟩
    match s.time with
    | none => if date.isValid then .ok (.inl date) else .error .badDate
    | some (hour, minute, second) =>
      let offset : Option Int := s.zone.map fun (sign, hours, minutes) =>
        let total : Int := naturalOf hours * 60 + naturalOf minutes
        if sign = '-' then -total else total
      let moment : Moment := ⟨date, naturalOf hour, naturalOf minute, naturalOf second,
        microsecondsOf s.fraction, offset⟩
      if moment.isValid then .ok (.inr moment) else .error .badDate

end ResolverHooks.Yaml
