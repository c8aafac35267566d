import Mathlib.Data.List.Basic
import Mathlib.Tactic.Ring
import UtilityCss.Proofs.Regex.Match
import UtilityCss.Regex.Search

/-!
The code of an expression does what the expression says: threads that get from its start to
acceptance pass its end, and between start and end lies a match. The pieces that code is put
together from, copies and loops among them, are treated one by one.
-/
namespace UtilityCss.Regex

def Cursor.at (c : Cursor) (address : Nat) : Thread := ⟨address, c.position, c.slots⟩

def Thread.cursor (t : Thread) : Cursor := ⟨t.position, t.slots⟩

def Step (program : Array Instruction) (text : Array Char) (t u : Thread) : Prop :=
  ∃ i, program[t.address]? = some i ∧ u ∈ t.next text i

/-- After that many steps the thread is accepted, with that cursor. -/
def Reaches (program : Array Instruction) (text : Array Char) (n : Nat) (t : Thread)
    (final : Cursor) : Prop :=
  ∃ address, program[address]? = some .accept ∧
    Iterated (Step program text) n t (final.at address)

/-- The code from `start` to `stop` matches what the relation says, on the way to acceptance. -/
structure Realizes (program : Array Instruction) (text : Array Char) (start stop : Nat)
    (r : Cursor → Cursor → Prop) : Prop where
  enter : ∀ {a b final : Cursor} {n : Nat}, r a b → Reaches program text n (b.at stop) final →
    ∃ m, Reaches program text m (a.at start) final
  leave : ∀ {a final : Cursor} {n : Nat}, Reaches program text n (a.at start) final →
    ∃ b m, m ≤ n ∧ r a b ∧ Reaches program text m (b.at stop) final

variable {program : Array Instruction} {text : Array Char} {start middle stop : Nat}
variable {r s : Cursor → Cursor → Prop}

theorem reaches_succ {t u : Thread} {final : Cursor} {n : Nat} (h : Step program text t u)
    (hu : Reaches program text n u final) : Reaches program text (n + 1) t final := by
  obtain ⟨address, haccept, hrun⟩ := hu
  exact ⟨address, haccept, u, h, hrun⟩

/-- Away from acceptance, a thread that gets there makes a step. -/
theorem Reaches.step {t : Thread} {final : Cursor} {n : Nat} {i : Instruction}
    (h : Reaches program text n t final) (hi : program[t.address]? = some i) (hne : i ≠ .accept) :
    ∃ m u, n = m + 1 ∧ u ∈ t.next text i ∧ Reaches program text m u final := by
  obtain ⟨address, haccept, hrun⟩ := h
  cases n with
  | zero =>
    have haddress : t.address = address := congrArg Thread.address hrun
    rw [haddress, haccept] at hi
    exact absurd (Option.some.inj hi).symm hne
  | succ m =>
    obtain ⟨u, ⟨j, hj, hu⟩, hrest⟩ := hrun
    rw [hi] at hj
    obtain rfl := Option.some.inj hj
    exact ⟨m, u, rfl, hu, address, haccept, hrest⟩

namespace Realizes

theorem congr {r' : Cursor → Cursor → Prop} (h : Realizes program text start stop r)
    (heq : ∀ a b, r a b ↔ r' a b) : Realizes program text start stop r' := by
  have hr : r = r' := by
    funext a b
    exact propext (heq a b)
  rwa [← hr]

theorem nothing (start : Nat) : Realizes program text start start (fun a b => a = b) where
  enter := by
    rintro a _ final n rfl h
    exact ⟨n, h⟩
  leave := by
    intro a final n h
    exact ⟨a, n, Nat.le_refl n, rfl, h⟩

theorem comp (h : Realizes program text start middle r) (h' : Realizes program text middle stop s) :
    Realizes program text start stop (fun a b => ∃ c, r a c ∧ s c b) where
  enter := by
    rintro a b final n ⟨c, hr, hs⟩ hreach
    obtain ⟨m, hm⟩ := h'.enter hs hreach
    exact h.enter hr hm
  leave := by
    intro a final n hreach
    obtain ⟨c, m, hmn, hr, hm⟩ := h.leave hreach
    obtain ⟨b, k, hkm, hs, hk⟩ := h'.leave hm
    exact ⟨b, k, Nat.le_trans hkm hmn, ⟨c, hr, hs⟩, hk⟩

theorem instruction {i : Instruction} (hi : program[start]? = some i) (hne : i ≠ .accept)
    (hnext : ∀ a u, u ∈ (a.at start).next text i ↔ ∃ b : Cursor, r a b ∧ u = b.at (start + 1)) :
    Realizes program text start (start + 1) r where
  enter := by
    intro a b final n hr hreach
    exact ⟨n + 1, reaches_succ ⟨i, hi, (hnext a _).2 ⟨b, hr, rfl⟩⟩ hreach⟩
  leave := by
    intro a final n hreach
    obtain ⟨m, u, rfl, hu, hm⟩ := hreach.step hi hne
    obtain ⟨b, hr, rfl⟩ := (hnext a u).1 hu
    exact ⟨b, m, Nat.le_succ m, hr, hm⟩

theorem jump (hi : program[start]? = some (.jump stop)) :
    Realizes program text start stop (fun a b => a = b) where
  enter := by
    rintro a _ final n rfl hreach
    exact ⟨n + 1, reaches_succ ⟨_, hi, List.mem_singleton.2 rfl⟩ hreach⟩
  leave := by
    intro a final n hreach
    obtain ⟨m, u, rfl, hu, hm⟩ := hreach.step hi (by simp)
    obtain rfl := List.mem_singleton.1 hu
    exact ⟨a, m, Nat.le_succ m, rfl, hm⟩

theorem mem_next_enter {lazy : Bool} {inside outside : Nat} {t u : Thread} :
    u ∈ t.next text (.enter lazy inside outside) ↔
      u = { t with address := inside } ∨ u = { t with address := outside } := by
  cases lazy <;> simp [Instruction.enter, Thread.next, or_comm]

theorem enter_ne_accept {lazy : Bool} {inside outside : Nat} :
    Instruction.enter lazy inside outside ≠ .accept := by
  cases lazy <;> simp [Instruction.enter]

theorem split {inside outside : Nat} (hi : program[start]? = some (.split inside outside))
    (hin : Realizes program text inside stop r) (hout : Realizes program text outside stop s) :
    Realizes program text start stop (fun a b => r a b ∨ s a b) where
  enter := by
    rintro a b final n (hr | hs) hreach
    · obtain ⟨m, hm⟩ := hin.enter hr hreach
      exact ⟨m + 1, reaches_succ ⟨_, hi, by simp [Thread.next, Cursor.at]⟩ hm⟩
    · obtain ⟨m, hm⟩ := hout.enter hs hreach
      exact ⟨m + 1, reaches_succ ⟨_, hi, by simp [Thread.next, Cursor.at]⟩ hm⟩
  leave := by
    intro a final n hreach
    obtain ⟨m, u, rfl, hu, hm⟩ := hreach.step hi (by simp)
    have hcases : u = a.at inside ∨ u = a.at outside := by
      simpa [Thread.next, Cursor.at] using hu
    rcases hcases with rfl | rfl
    · obtain ⟨b, k, hk, hr, hreach⟩ := hin.leave hm
      exact ⟨b, k, Nat.le_succ_of_le hk, .inl hr, hreach⟩
    · obtain ⟨b, k, hk, hs, hreach⟩ := hout.leave hm
      exact ⟨b, k, Nat.le_succ_of_le hk, .inr hs, hreach⟩

theorem optional {lazy : Bool} (hi : program[start]? = some (.enter lazy (start + 1) stop))
    (hin : Realizes program text (start + 1) stop r) :
    Realizes program text start stop (fun a b => r a b ∨ a = b) := by
  cases lazy with
  | false => exact split hi hin (nothing stop)
  | true =>
    apply (split hi (nothing stop) hin).congr
    intro a b
    exact or_comm

theorem loop {lazy : Bool} {inside last : Nat}
    (hi : program[last]? = some (.enter lazy inside (last + 1)))
    (hin : Realizes program text inside last r) :
    Realizes program text last (last + 1) (fun a b => ∃ n, Iterated r n a b) where
  enter := by
    rintro a b final n ⟨count, hcount⟩ hreach
    induction count generalizing a with
    | zero =>
      obtain rfl := hcount
      refine ⟨n + 1, reaches_succ ⟨_, hi, mem_next_enter.2 (.inr rfl)⟩ hreach⟩
    | succ count ih =>
      obtain ⟨c, hr, hrest⟩ := hcount
      obtain ⟨m, hm⟩ := ih hrest
      obtain ⟨k, hk⟩ := hin.enter hr hm
      exact ⟨k + 1, reaches_succ ⟨_, hi, mem_next_enter.2 (.inl rfl)⟩ hk⟩
  leave := by
    -- Every turn takes at least the step at the end, so the number of steps goes down.
    intro a final n
    induction n using Nat.strongRecOn generalizing a with
    | ind n ih =>
      intro hreach
      obtain ⟨m, u, rfl, hu, hm⟩ := hreach.step hi enter_ne_accept
      rcases mem_next_enter.1 hu with rfl | rfl
      · obtain ⟨c, k, hk, hr, hreach⟩ := hin.leave hm
        obtain ⟨b, j, hj, ⟨count, hcount⟩, hb⟩ := ih k (by omega) hreach
        exact ⟨b, j, by omega, ⟨count + 1, c, hr, hcount⟩, hb⟩
      · exact ⟨a, m, Nat.le_succ m, ⟨0, rfl⟩, hm⟩

theorem copies {size : Nat} (count start : Nat)
    (h : ∀ k < count, Realizes program text (start + k * size) (start + (k + 1) * size) r) :
    Realizes program text start (start + count * size) (Iterated r count) := by
  induction count generalizing start with
  | zero =>
    rw [Nat.zero_mul, Nat.add_zero]
    exact nothing start
  | succ count ih =>
    have hshift : ∀ k, start + (k + 1) * size = start + size + k * size := by
      intro k
      ring
    have hfirst : Realizes program text start (start + size) r := by
      simpa using h 0 (Nat.succ_pos count)
    have hrest : Realizes program text (start + size) (start + size + count * size)
        (Iterated r count) := by
      apply ih
      intro k hk
      rw [← hshift, ← hshift]
      exact h (k + 1) (Nat.succ_lt_succ hk)
    rw [hshift]
    exact hfirst.comp hrest

theorem optionals {size : Nat} {lazy : Bool} (count start : Nat)
    (hstop : start + count * size = stop)
    (henter : ∀ k < count, program[start + k * size]? =
      some (.enter lazy (start + k * size + 1) stop))
    (h : ∀ k < count,
      Realizes program text (start + k * size + 1) (start + (k + 1) * size) r) :
    Realizes program text start stop (fun a b => ∃ n ≤ count, Iterated r n a b) := by
  -- Each copy goes on to the rest of them, or past all of them at once.
  induction count generalizing start with
  | zero =>
    rw [← hstop, Nat.zero_mul, Nat.add_zero]
    apply (nothing start).congr
    intro a b
    simp [Iterated]
  | succ count ih =>
    have hshift : ∀ k, start + (k + 1) * size = start + size + k * size := by
      intro k
      ring
    have hfirst : Realizes program text (start + 1) (start + size) r := by
      simpa using h 0 (Nat.succ_pos count)
    have hrest : Realizes program text (start + size) stop
        (fun a b => ∃ n ≤ count, Iterated r n a b) := by
      apply ih
      · rw [← hshift, hstop]
      · intro k hk
        rw [← hshift]
        exact henter (k + 1) (Nat.succ_lt_succ hk)
      · intro k hk
        rw [← hshift, ← hshift]
        exact h (k + 1) (Nat.succ_lt_succ hk)
    have hsplit : program[start]? = some (.enter lazy (start + 1) stop) := by
      simpa using henter 0 (Nat.succ_pos count)
    apply (optional hsplit (hfirst.comp hrest)).congr
    intro a b
    constructor
    · rintro (⟨c, hr, n, hn, hrun⟩ | rfl)
      · exact ⟨n + 1, Nat.succ_le_succ hn, c, hr, hrun⟩
      · exact ⟨0, Nat.zero_le _, rfl⟩
    · rintro ⟨n, hn, hrun⟩
      cases n with
      | zero => exact .inr hrun
      | succ n =>
        obtain ⟨c, hr, hrun⟩ := hrun
        exact .inl ⟨c, hr, n, Nat.le_of_succ_le_succ hn, hrun⟩

end Realizes

def Laid (program : Array Instruction) (start : Nat) (code : List Instruction) : Prop :=
  ∀ (k : Nat) (i : Instruction), code[k]? = some i → program[start + k]? = some i

theorem Laid.left {front back : List Instruction} (h : Laid program start (front ++ back)) :
    Laid program start front := by
  intro k i hi
  have hk : k < front.length := (List.getElem?_eq_some_iff.1 hi).1
  apply h
  rwa [List.getElem?_append_left hk]

theorem Laid.right {front back : List Instruction} (h : Laid program start (front ++ back)) :
    Laid program (start + front.length) back := by
  intro k i hi
  have hback := h (front.length + k) i
  rw [List.getElem?_append_right (Nat.le_add_right _ _), Nat.add_sub_cancel_left] at hback
  rw [Nat.add_assoc]
  exact hback hi

theorem Laid.head {i : Instruction} {rest : List Instruction}
    (h : Laid program start (i :: rest)) : program[start]? = some i :=
  h 0 i rfl

theorem Laid.tail {i : Instruction} {rest : List Instruction}
    (h : Laid program start (i :: rest)) : Laid program (start + 1) rest := by
  have hsplit : Laid program start ([i] ++ rest) := h
  exact hsplit.right

namespace Expr

theorem copies_succ (count size start : Nat) (piece : Nat → List Instruction) :
    copies (count + 1) size start piece =
      piece start ++ copies count size (start + size) piece := by
  rw [copies, copies, List.range_succ_eq_map, List.flatMap_cons, List.flatMap_map]
  congr 1
  · simp
  · apply List.flatMap_congr
    intro k _
    congr 1
    rw [Nat.succ_mul]
    omega

theorem length_copies {size : Nat} {piece : Nat → List Instruction}
    (h : ∀ address, (piece address).length = size) (count start : Nat) :
    (copies count size start piece).length = count * size := by
  induction count generalizing start with
  | zero => simp [copies]
  | succ count ih =>
    rw [copies_succ, List.length_append, h, ih]
    ring

theorem laid_copies {size : Nat} {piece : Nat → List Instruction}
    (hsize : ∀ address, (piece address).length = size) {count start : Nat}
    (h : Laid program start (copies count size start piece)) :
    ∀ k < count, Laid program (start + k * size) (piece (start + k * size)) := by
  induction count generalizing start with
  | zero =>
    intro k hk
    exact absurd hk (Nat.not_lt_zero k)
  | succ count ih =>
    rw [copies_succ] at h
    intro k hk
    cases k with
    | zero => simpa using h.left
    | succ k =>
      have hrest := h.right
      rw [hsize] at hrest
      have hcopy := ih hrest k (Nat.lt_of_succ_lt_succ hk)
      have haddress : start + (k + 1) * size = start + size + k * size := by ring
      rwa [haddress]

theorem length_code (e : Expr) (start : Nat) : (e.code start).length = e.length := by
  induction e generalizing start with
  | empty => rfl
  | set s => rfl
  | look l => rfl
  | capture index body ih => simp [code, length, ih]
  | cat first second ihFirst ihSecond => simp [code, length, ihFirst, ihSecond]
  | alt first second ihFirst ihSecond =>
    simp only [code, length, List.length_append, List.length_cons, List.length_nil, ihFirst,
      ihSecond]
    omega
  | repetition min max lazy body ih =>
    cases max with
    | none =>
      cases min with
      | zero => simp [code, length, ih]
      | succ n => simp [code, length, length_copies ih]
    | some max =>
      have hpiece : ∀ stop address,
          (Instruction.enter lazy (address + 1) stop :: body.code (address + 1)).length =
            body.length + 1 := by
        intro stop address
        rw [List.length_cons, ih]
      simp [code, length, length_copies ih, length_copies (hpiece _)]

theorem realizes_take {s : Unicode.CharSet} (hi : program[start]? = some (.take s)) :
    Realizes program text start (start + 1) ((set s).Matches text) := by
  apply Realizes.instruction hi (by simp)
  intro a u
  simp only [Thread.next, Cursor.at, Matches]
  cases hc : text[a.position]? with
  | none => simp
  | some c =>
    by_cases hs : s.contains c
    · simp [hs, Cursor.advance]
    · simp [hs]

theorem realizes_look {l : Look} (hi : program[start]? = some (.look l)) :
    Realizes program text start (start + 1) ((look l).Matches text) := by
  apply Realizes.instruction hi (by simp)
  intro a u
  simp only [Thread.next, Cursor.at, Matches, Cursor.before]
  split
  · next hl => simp [hl]
  · next hl => simp [hl]

theorem realizes_save {slot : Nat} (hi : program[start]? = some (.save slot)) :
    Realizes program text start (start + 1) (fun a b => b = a.save slot) := by
  apply Realizes.instruction hi (by simp)
  intro a u
  simp [Thread.next, Cursor.at, Cursor.save]

theorem realizes_capture {index : Nat} {body : Expr}
    (ih : ∀ start, Laid program start (body.code start) →
      Realizes program text start (start + body.length) (body.Matches text))
    (h : Laid program start ((capture index body).code start)) :
    Realizes program text start (start + (capture index body).length)
      ((capture index body).Matches text) := by
  have hbody := ih (start + 1) h.left.tail
  have hlast : program[start + 1 + body.length]? = some (.save (2 * index + 1)) := by
    have hend := h.right.head
    have haddress : start + (body.length + 1) = start + 1 + body.length := by omega
    rwa [List.length_cons, length_code, haddress] at hend
  have hstop : start + (capture index body).length = start + 1 + body.length + 1 := by
    rw [length]
    omega
  rw [hstop]
  apply ((realizes_save h.left.head).comp (hbody.comp (realizes_save hlast))).congr
  intro a b
  simp [Matches]

theorem realizes_alt {first second : Expr}
    (ihFirst : ∀ start, Laid program start (first.code start) →
      Realizes program text start (start + first.length) (first.Matches text))
    (ihSecond : ∀ start, Laid program start (second.code start) →
      Realizes program text start (start + second.length) (second.Matches text))
    (h : Laid program start ((alt first second).code start)) :
    Realizes program text start (start + (alt first second).length)
      ((alt first second).Matches text) := by
  have hfirst := ihFirst (start + 1) h.left.left.tail
  have hjump := h.left.right.head
  have hsecond := h.right
  have hmiddle : start + (first.length + 1) = start + 1 + first.length := by omega
  have hbehind : start + (first.length + 1 + 1) = start + first.length + 2 := by omega
  rw [List.length_cons, length_code, hmiddle] at hjump
  rw [List.length_append, List.length_cons, length_code, List.length_singleton, hbehind]
    at hsecond
  have hstop : start + (alt first second).length = start + first.length + 2 + second.length := by
    rw [length]
    omega
  rw [hstop]
  apply (Realizes.split h.left.left.head (hfirst.comp (Realizes.jump hjump))
    (ihSecond _ hsecond)).congr
  intro a b
  simp [Matches]

theorem iterated_from {min : Nat} {a b : Cursor} :
    (∃ c, Iterated r min a c ∧ ∃ n, Iterated r n c b) ↔ ∃ n, min ≤ n ∧ Iterated r n a b := by
  constructor
  · rintro ⟨c, hmin, n, hn⟩
    exact ⟨min + n, Nat.le_add_right min n, iterated_add.2 ⟨c, hmin, hn⟩⟩
  · rintro ⟨n, hmin, hn⟩
    obtain ⟨k, rfl⟩ := Nat.exists_eq_add_of_le hmin
    obtain ⟨c, hc, hk⟩ := iterated_add.1 hn
    exact ⟨c, hc, k, hk⟩

theorem iterated_between {min max : Nat} {a b : Cursor} :
    (∃ c, Iterated r min a c ∧ ∃ n ≤ max - min, Iterated r n c b) ↔
      ∃ n, min ≤ n ∧ n ≤ Nat.max min max ∧ Iterated r n a b := by
  have hmax : Nat.max min max = min + (max - min) := by
    have hdef : Nat.max min max = Max.max min max := rfl
    omega
  rw [hmax]
  constructor
  · rintro ⟨c, hmin, n, hle, hn⟩
    exact ⟨min + n, Nat.le_add_right min n, Nat.add_le_add_left hle min,
      iterated_add.2 ⟨c, hmin, hn⟩⟩
  · rintro ⟨n, hmin, hle, hn⟩
    obtain ⟨k, rfl⟩ := Nat.exists_eq_add_of_le hmin
    obtain ⟨c, hc, hk⟩ := iterated_add.1 hn
    exact ⟨c, hc, k, Nat.le_of_add_le_add_left hle, hk⟩

section

variable {lazy : Bool} {body : Expr}
variable (ih : ∀ start, Laid program start (body.code start) →
  Realizes program text start (start + body.length) (body.Matches text))
include ih

theorem realizes_copies {count : Nat}
    (h : Laid program start (copies count body.length start body.code)) :
    Realizes program text start (start + count * body.length)
      (Iterated (body.Matches text) count) := by
  apply Realizes.copies
  intro k hk
  have hcopy := ih _ (laid_copies body.length_code h k hk)
  have hnext : start + (k + 1) * body.length = start + k * body.length + body.length := by ring
  rwa [hnext]

theorem realizes_any
    (h : Laid program start ((repetition 0 none lazy body).code start)) :
    Realizes program text start (start + (repetition 0 none lazy body).length)
      ((repetition 0 none lazy body).Matches text) := by
  have hbody := ih (start + 1) h.left.tail
  have hlast : program[start + 1 + body.length]? =
      some (.enter lazy (start + 1) (start + 1 + body.length + 1)) := by
    have hend := h.right.head
    have haddress : start + (body.length + 1) = start + 1 + body.length := by omega
    rwa [List.length_cons, length_code, haddress] at hend
  have hstop : start + (repetition 0 none lazy body).length = start + 1 + body.length + 1 := by
    rw [length]
    omega
  rw [hstop]
  apply (Realizes.optional h.left.head (hbody.comp (Realizes.loop hlast hbody))).congr
  intro a b
  constructor
  · rintro (⟨c, hc, n, hn⟩ | rfl)
    · exact ⟨n + 1, Nat.zero_le _, by simp, c, hc, hn⟩
    · exact ⟨0, Nat.zero_le _, by simp, rfl⟩
  · rintro ⟨n, -, -, hn⟩
    cases n with
    | zero => exact .inr hn
    | succ n =>
      obtain ⟨c, hc, hn⟩ := hn
      exact .inl ⟨c, hc, n, hn⟩

theorem realizes_atLeast {min : Nat}
    (h : Laid program start ((repetition (min + 1) none lazy body).code start)) :
    Realizes program text start (start + (repetition (min + 1) none lazy body).length)
      ((repetition (min + 1) none lazy body).Matches text) := by
  have hcopies := realizes_copies ih h.left
  have hlast := h.right.head
  rw [length_copies body.length_code] at hlast
  have hinside : Realizes program text (start + (min + 1) * body.length - body.length)
      (start + (min + 1) * body.length) (body.Matches text) := by
    have hcopy := ih _ (laid_copies body.length_code h.left min (Nat.lt_succ_self min))
    have hsplit : start + (min + 1) * body.length = start + min * body.length + body.length := by
      ring
    rwa [hsplit, Nat.add_sub_cancel]
  rw [length, ← Nat.add_assoc]
  apply (hcopies.comp (Realizes.loop hlast hinside)).congr
  intro a b
  simp [iterated_from, Matches]

theorem realizes_between {min max : Nat}
    (h : Laid program start ((repetition min (some max) lazy body).code start)) :
    Realizes program text start (start + (repetition min (some max) lazy body).length)
      ((repetition min (some max) lazy body).Matches text) := by
  rw [code] at h
  have hcopies := realizes_copies ih h.left
  have hrest := h.right
  rw [length_copies body.length_code] at hrest
  have hsize : ∀ stop address,
      (Instruction.enter lazy (address + 1) stop :: body.code (address + 1)).length =
        body.length + 1 := by
    intro stop address
    rw [List.length_cons, body.length_code]
  have hpieces := laid_copies (hsize _) hrest
  have hoptionals : Realizes program text (start + min * body.length)
      (start + min * body.length + (max - min) * (body.length + 1))
      (fun a b => ∃ n ≤ max - min, Iterated (body.Matches text) n a b) := by
    apply Realizes.optionals (max - min) _ rfl
    · intro k hk
      exact (hpieces k hk).head
    · intro k hk
      have hcopy := ih _ (hpieces k hk).tail
      have hnext : start + min * body.length + (k + 1) * (body.length + 1) =
          start + min * body.length + k * (body.length + 1) + 1 + body.length := by ring
      rwa [hnext]
  rw [length, ← Nat.add_assoc]
  apply (hcopies.comp hoptionals).congr
  intro a b
  simp [iterated_between, Matches]

end

/-- The code of an expression does what the expression says, wherever it is laid. -/
theorem realizes_code (e : Expr) (start : Nat) (h : Laid program start (e.code start)) :
    Realizes program text start (start + e.length) (e.Matches text) := by
  induction e generalizing start with
  | empty => exact Realizes.nothing start
  | set s => exact realizes_take h.head
  | look l => exact realizes_look h.head
  | capture index body ih => exact realizes_capture ih h
  | repetition min max lazy body ih =>
    match min, max with
    | 0, none => exact realizes_any ih h
    | min + 1, none => exact realizes_atLeast ih h
    | min, some max => exact realizes_between ih h
  | cat first second ihFirst ihSecond =>
    have hsecond := h.right
    rw [length_code] at hsecond
    rw [length, ← Nat.add_assoc]
    exact (ihFirst start h.left).comp (ihSecond _ hsecond)
  | alt first second ihFirst ihSecond => exact realizes_alt ihFirst ihSecond h

theorem laid_program (e : Expr) : Laid e.program 0 (e.code 0) := by
  intro k i hi
  have hk : k < (e.code 0).length := (List.getElem?_eq_some_iff.1 hi).1
  rw [Nat.zero_add, program, List.getElem?_toArray, List.getElem?_append_left hk]
  exact hi

theorem program_length (e : Expr) : e.program[e.length]? = some .accept := by
  rw [program, List.getElem?_toArray, ← length_code e 0]
  simp

/-- A thread is accepted just where the expression matches. -/
theorem reaches_program {e : Expr} {a b : Cursor} :
    (∃ n, Reaches e.program text n (a.at 0) b) ↔ e.Matches text a b := by
  have hcode : Realizes e.program text 0 (0 + e.length) (e.Matches text) :=
    realizes_code e 0 e.laid_program
  rw [Nat.zero_add] at hcode
  constructor
  · rintro ⟨n, hn⟩
    obtain ⟨c, m, -, hmatch, address, haccept, hm⟩ := hcode.leave hn
    cases m with
    | zero =>
      have hcursor : c = b := congrArg Thread.cursor hm
      rwa [← hcursor]
    | succ m =>
      obtain ⟨u, ⟨i, hi, hu⟩, -⟩ := hm
      rw [Cursor.at, program_length] at hi
      obtain rfl := Option.some.inj hi
      simp [Thread.next] at hu
  · intro hmatch
    have hend : Reaches e.program text 0 (b.at e.length) b := ⟨e.length, e.program_length, rfl⟩
    exact hcode.enter hmatch hend

end Expr

end UtilityCss.Regex
