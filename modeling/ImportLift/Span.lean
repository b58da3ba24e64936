-- Spans of a text and their removal. Spans come in any order and are cut from
-- left to right; each cut shortens the text, so a later span moves back by
-- what was removed before it. Spans that overlap, or end before they start,
-- are refused before anything is cut.
import ImportLift.Text.Basic

namespace ImportLift

/-- The characters from one offset up to another. -/
structure Span where
  start : Int
  stop : Int
deriving DecidableEq, Repr

namespace Span

/-- Spans are ordered by where they start, then by where they stop. -/
def le (a b : Span) : Bool := a.start < b.start || (a.start = b.start && a.stop ≤ b.stop)

/-- Why a list of spans is refused. -/
inductive Fault
  /-- The span stops before it starts. -/
  | reversed (span : Span)
  /-- The span starts before the one in front of it stops. -/
  | overlaps (span : Span)
deriving DecidableEq, Repr

/-- A span as a pair of offsets. -/
def render (s : Span) : Text := "(" ++ Text.ofInt s.start ++ ", " ++ Text.ofInt s.stop ++ ")"

def Fault.message : Fault → Text
  | reversed s => "Invalid span " ++ s.render
  | overlaps s => "Span " ++ s.render ++ " overlaps a previous span"

/-- The first fault of spans in order, none of which may start before `least`. -/
def firstFault? : Int → List Span → Option Fault
  | _, [] => none
  | least, s :: rest =>
    if s.stop < s.start then some (.reversed s)
    else if s.start < least then some (.overlaps s)
    else firstFault? s.stop rest

/-- A text from which some spans are already cut, and how much that was. -/
structure Cut where
  text : Text
  removed : Int

/-- Cuts one more span, given in offsets of the whole text. -/
def Cut.next (c : Cut) (s : Span) : Cut :=
  ⟨c.text.take (s.start - c.removed).toNat ++ c.text.drop (s.stop - c.removed).toNat,
    c.removed + (s.stop - s.start)⟩

/-- The text without the given spans, which are in order and do not overlap. -/
def cut (text : Text) (spans : List Span) : Text := (spans.foldl Cut.next ⟨text, 0⟩).text

/-- The text without the given spans, in any order. -/
def remove (text : Text) (spans : List Span) : Except Fault Text :=
  let sorted := spans.mergeSort le
  match firstFault? 0 sorted with
  | some fault => .error fault
  | none => .ok (cut text sorted)

end Span

end ImportLift
