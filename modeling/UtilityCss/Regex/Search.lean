import UtilityCss.Regex.Program

/-!
Search for the first match of a program in a text. Of two ways to match, the one that starts
further left comes first, and of two with one start, the one that the splits prefer. An instruction
that has been reached at a position once is not tried there again: it has failed, or is still being
tried, and then a second try would only repeat it.
-/
namespace UtilityCss.Regex

/-- Where a program is in the text, and what positions it has saved, last first. -/
structure Thread where
  address : Nat
  position : Nat
  slots : List (Nat × Nat)
  deriving DecidableEq, Repr, Inhabited

namespace Thread

/-- Where the thread stands in a table with a row of positions per instruction. -/
def index (t : Thread) (textLength : Nat) : Nat := t.address * (textLength + 1) + t.position

/-- The threads that continue a thread at an instruction, preferred ones first. -/
def next (text : Array Char) (t : Thread) : Instruction → List Thread
  | .take s =>
    match text[t.position]? with
    | some c => if s.contains c then [⟨t.address + 1, t.position + 1, t.slots⟩] else []
    | none => []
  | .look l =>
    let before := if t.position = 0 then none else text[t.position - 1]?
    if l.holds before text[t.position]? then [{ t with address := t.address + 1 }] else []
  | .save slot => [⟨t.address + 1, t.position, (slot, t.position) :: t.slots⟩]
  | .split first second => [{ t with address := first }, { t with address := second }]
  | .jump address => [{ t with address }]
  | .accept => []

end Thread

/-- Marking what has not been tried leaves less to try. -/
theorem count_set_lt {tried : Array Bool} {i : Nat} (h : i < tried.size) (hf : tried[i] = false) :
    (tried.set i true h).count false < tried.count false := by
  have pos : 0 < tried.count false := Array.count_pos_iff.2 (hf ▸ Array.getElem_mem h)
  rw [Array.count_set, hf, if_pos (beq_self_eq_true false), if_neg (by decide)]
  omega

/-- The saved positions of the first thread that is accepted. Threads are tried from the front;
`tried` tells which instructions have been reached at which positions. -/
def search (program : Array Instruction) (text : Array Char) (threads : List Thread)
    (tried : Array Bool) : Option (List (Nat × Nat)) :=
  match threads with
  | [] => none
  | t :: rest =>
    if h : ∃ h : t.index text.size < tried.size, tried[t.index text.size] = false then
      match program[t.address]? with
      | some .accept => some t.slots
      | some i =>
        search program text (t.next text i ++ rest) (tried.set (t.index text.size) true h.1)
      | none => search program text rest (tried.set (t.index text.size) true h.1)
    else search program text rest tried
termination_by (tried.count false, threads.length)
decreasing_by
  · exact Prod.Lex.left _ _ (count_set_lt h.1 h.2)
  · exact Prod.Lex.left _ _ (count_set_lt h.1 h.2)
  · exact Prod.Lex.right _ (Nat.lt_succ_self _)

def starts (textLength : Nat) : List Thread :=
  (List.range (textLength + 1)).map fun position => ⟨0, position, []⟩

/-- The saved positions of the first match anywhere in the text. -/
def firstMatch (program : Array Instruction) (text : Array Char) : Option (List (Nat × Nat)) :=
  search program text (starts text.size)
    (Array.replicate (program.size * (text.size + 1)) false)

end UtilityCss.Regex
