import Mathlib.Data.List.Infix
import Mathlib.Data.Nat.PSub
import UtilityCss.Proofs.Except
import UtilityCss.Regex.Reader

/-!
How many groups are open. A text overcloses if somewhere it closes a group that it has not opened,
parentheses being told from literal ones by the reader.
-/
namespace UtilityCss.Regex

/-- The number of open groups behind the token, from that in front of it; none once a group has been
closed that was not open. -/
def Token.nest : Token → Option Nat → Option Nat
  | .opening _, depth => depth.map (· + 1)
  | .closing, depth => depth.bind Nat.ppred
  | _, depth => depth

def depth? (tokens : List Token) : Option Nat := tokens.foldr Token.nest (some 0)

theorem foldr_nest_add {tokens : List Token} {m n k : Nat}
    (h : tokens.foldr Token.nest (some k) = some m) :
    tokens.foldr Token.nest (some (k + n)) = some (m + n) := by
  induction tokens generalizing m with
  | nil =>
    obtain rfl := Option.some.inj h
    rfl
  | cons t rest ih =>
    rw [List.foldr_cons] at h ⊢
    cases hrest : rest.foldr Token.nest (some k) with
    | none =>
      rw [hrest] at h
      cases t <;> simp [Token.nest] at h
    | some d =>
      rw [hrest] at h
      rw [ih hrest]
      cases t with
      | opening head =>
        obtain rfl := Option.some.inj h
        exact congrArg some (Nat.add_right_comm d n 1)
      | closing =>
        cases d with
        | zero => simp [Token.nest] at h
        | succ d =>
          obtain rfl := Option.some.inj h
          rw [Nat.add_right_comm]
          rfl
      | _ =>
        obtain rfl := Option.some.inj h
        rfl

theorem depth_append {front back : List Token} {m n : Nat} (hfront : depth? front = some m)
    (hback : depth? back = some n) : depth? (front ++ back) = some (m + n) := by
  unfold depth? at hback ⊢
  rw [List.foldr_append, hback]
  simpa using foldr_nest_add (n := n) hfront

/-- Some beginning of the text, read by itself, closes a group that it has not opened. -/
def Overcloses (text : List Char) : Prop :=
  ∃ front, front <+: text ∧ ∃ r, front.foldlM Reader.step {} = .ok r ∧ depth? r.tokens = none

def endsOverclosed (text : List Char) : Bool :=
  match text.foldlM Reader.step {} with
  | .ok r => (depth? r.tokens).isNone
  | .error _ => false

theorem endsOverclosed_iff {text : List Char} :
    endsOverclosed text ↔ ∃ r, text.foldlM Reader.step {} = .ok r ∧ depth? r.tokens = none := by
  unfold endsOverclosed
  split
  · next r hr => simp [hr]
  · next e he => simp [he]

instance : DecidablePred Overcloses := fun text =>
  decidable_of_iff (∃ front ∈ text.inits, endsOverclosed front) <| by
    simp only [List.mem_inits, endsOverclosed_iff, Overcloses]

end UtilityCss.Regex
