import Mathlib.Data.List.Basic
import UtilityCss.Proofs.Css.Reader

/-!
Reading one rule gives back the fragment that it was written from. Each lemma says what a reader
makes of one piece of the text, whatever has been read before.
-/
namespace UtilityCss.Css

variable {d : Delimiting} {o : OutputOptions} {style : OutputStyle}

/-- What a property and its value have to be for their declaration to be read back. -/
structure DeclarationReadable (d : Delimiting) (e : String × String) : Prop where
  property : Reader.inert d true false e.1.toList
  colon : ':' ∉ e.1.toList
  newline : '\n' ∉ e.1.toList
  value : Reader.inert d true false e.2.toList

/-- What a fragment has to be for its rule to be read back. -/
structure Fragment.Readable (d : Delimiting) (f : Fragment) : Prop where
  selector : Reader.inert d false false f.selector.toList
  newline : '\n' ∉ f.selector.toList
  declarations : ∀ e ∈ f.declarations.entries, DeclarationReadable d e

namespace Reader

def IsGap (text : List Char) : Prop := ∀ c ∈ text, c = '\n'

theorem isGap_nil : IsGap [] := by
  simp [IsGap]

theorem isGap_newline : IsGap ['\n'] := by
  simp [IsGap]

theorem isGap_append {front back : List Char} (hfront : IsGap front) (hback : IsGap back) :
    IsGap (front ++ back) := fun c hc =>
  (List.mem_append.1 hc).elim (hfront c) (hback c)

theorem dropWhile_gap {gap text : List Char} (hgap : IsGap gap) (htext : text.head? ≠ some '\n') :
    (gap ++ text).dropWhile (· = '\n') = text := by
  induction gap with
  | nil =>
    cases text with
    | nil => rfl
    | cons c rest =>
      have hc : c ≠ '\n' := by simpa using htext
      simp [hc]
  | cons c rest ih =>
    have hc : c = '\n' := hgap c (by simp)
    rw [List.cons_append, hc, List.dropWhile_cons_of_pos (by simp)]
    exact ih fun x hx => hgap x (by simp [hx])

theorem head?_indent_append {n : Nat} {text : List Char} (htext : text.head? ≠ some '\n') :
    (indent style n ++ text).head? ≠ some '\n' := by
  cases style with
  | compressed => simpa [indent] using htext
  | expanded =>
    cases n with
    | zero => simpa [indent] using htext
    | succ n => simp [indent, Nat.mul_add, List.replicate_succ]

theorem indent_zero : indent style 0 = [] := by
  cases style <;> rfl

theorem dropPrefix?_append (front text : List Char) :
    (front ++ text).dropPrefix? front = some text :=
  List.dropPrefix?_append_of_beq text (BEq.refl front)

theorem dropSuffix?_append (text back : List Char) :
    (text ++ back).dropSuffix? back = some text :=
  List.dropSuffix?_eq_some_iff.2 ⟨back, rfl, by simp⟩

theorem unindent_append {n : Nat} {gap text : List Char} (hgap : IsGap gap)
    (htext : text.head? ≠ some '\n') :
    unindent style n (gap ++ (indent style n ++ text)) = some text := by
  rw [unindent, dropWhile_gap hgap (head?_indent_append htext)]
  exact dropPrefix?_append _ text

theorem unindent_indent {n : Nat} {gap : List Char} (hgap : IsGap gap) :
    unindent style n (gap ++ indent style n) = some [] := by
  have h : unindent style n (gap ++ (indent style n ++ [])) = some [] :=
    unindent_append hgap (by simp)
  rwa [List.append_nil] at h

theorem head?_ne_of_not_mem {front back : List Char} (hfront : '\n' ∉ front)
    (hback : back.head? ≠ some '\n') : (front ++ back).head? ≠ some '\n' := by
  cases front with
  | nil => exact hback
  | cons c rest => simpa using fun h : c = '\n' => hfront (h ▸ List.mem_cons_self)

def declarationText (o : OutputOptions) (e : String × String) : List Char :=
  indent o.style (depth o.layers + 1) ++ (e.1.toList ++ ':' :: space o.style ++ e.2.toList)

theorem takeWhile_colon {front : List Char} (back : List Char) (h : ':' ∉ front) :
    (front ++ ':' :: back).takeWhile (· ≠ ':') = front ∧
      (front ++ ':' :: back).dropWhile (· ≠ ':') = ':' :: back := by
  have hne : ∀ c ∈ front, (decide (c ≠ ':')) = true := fun c hc =>
    decide_eq_true fun e => h (e ▸ hc)
  constructor
  · rw [List.takeWhile_append_of_pos hne]
    simp
  · rw [List.dropWhile_append_of_pos hne]
    simp

theorem declaration?_text {e : String × String} {gap : List Char} (hgap : IsGap gap)
    (h : DeclarationReadable d e) :
    declaration? o (gap ++ declarationText o e) = some e := by
  have hhead : (e.1.toList ++ ':' :: space o.style ++ e.2.toList).head? ≠ some '\n' := by
    rw [List.append_assoc]
    exact head?_ne_of_not_mem h.newline (by simp)
  obtain ⟨hname, hvalue⟩ := takeWhile_colon (space o.style ++ e.2.toList) h.colon
  rw [declaration?, declarationText, unindent_append hgap hhead]
  simp only [List.append_assoc, List.cons_append, Option.bind_eq_bind, Option.bind_some, hname,
    hvalue, String.ofList_toList]
  rw [← List.cons_append, dropPrefix?_append]
  simp

theorem inert_blanks {inRule : Bool} (n : Nat) : inert d inRule false (indent style n) := by
  apply inert_of_forall
  intro c hc
  cases style with
  | compressed => simp [indent] at hc
  | expanded =>
    have hblank : c = ' ' := (List.mem_replicate.1 hc).2
    simp [hblank, isStop, protects]

theorem inert_space {inRule : Bool} : inert d inRule false (space style) := by
  cases style <;> cases d <;> cases inRule <;> rfl

theorem inert_declarationText {e : String × String} (h : DeclarationReadable d e) :
    inert d true false (declarationText o e) := by
  have hcolon : inert d true false [':'] := by cases d <;> rfl
  have hmiddle : inert d true false (':' :: space o.style) := inert_append hcolon inert_space
  exact inert_append (inert_blanks _)
    (inert_append (inert_append h.property hmiddle) h.value)

theorem run_append {front back : List Char} {r q : Reader}
    (h : front.foldlM (step d o) r = some q) :
    (front ++ back).foldlM (step d o) r = back.foldlM (step d o) q := by
  rw [List.foldlM_append, h]
  rfl

theorem run_singleton (r : Reader) (c : Char) : [c].foldlM (step d o) r = step d o r c := by
  simp

theorem step_open (r : Reader) (h : r.guarded = false) : step d o r '\x7b' = r.openBlock o := by
  simp [step, isStop, h]

theorem step_close (r : Reader) (h : r.guarded = false) : step d o r '\x7d' = r.closeBlock o := by
  simp [step, isStop, h]

theorem step_semicolon (r : Reader) (h : r.guarded = false) (hrule : r.rule.isSome) :
    step d o r ';' = r.endDeclaration o := by
  simp [step, isStop, h, hrule]

theorem run_gap {text gap : List Char} {layer : Option Layer}
    {rule : Option (String × List (String × String))} {rules : List StyleRule}
    (hgap : IsGap gap) :
    gap.foldlM (step d o) ⟨text, false, layer, rule, rules⟩ =
      some ⟨text ++ gap, false, layer, rule, rules⟩ := by
  apply run_inert
  apply inert_of_forall
  intro c hc
  simp [hgap c hc, isStop, protects]

theorem selector?_text {selector : String} {gap : List Char} (hgap : IsGap gap)
    (h : '\n' ∉ selector.toList) :
    selector? o (gap ++ (indent o.style (depth o.layers) ++ (selector.toList ++ space o.style))) =
      some selector := by
  have hhead : (selector.toList ++ space o.style).head? ≠ some '\n' :=
    head?_ne_of_not_mem h (by cases o.style <;> simp [space])
  rw [selector?, unindent_append hgap hhead]
  simp [dropSuffix?_append]

variable {layer : Option Layer} {rules : List StyleRule} {gap : List Char} {f : Fragment}

theorem run_selector (hf : f.Readable d) (hgap : IsGap gap)
    (hlayer : o.layers = .layered → layer ≠ none) :
    ((indent o.style (depth o.layers) ++ (f.selector.toList ++ space o.style)) ++
        ['\x7b']).foldlM (step d o) ⟨gap, false, layer, none, rules⟩ =
      some ⟨[], false, layer, some (f.selector, []), rules⟩ := by
  have hinert : inert d false false
      (indent o.style (depth o.layers) ++ (f.selector.toList ++ space o.style)) :=
    inert_append (inert_blanks _) (inert_append hf.selector inert_space)
  have hinside : ¬(o.layers = .layered ∧ layer = none) := fun h => hlayer h.1 h.2
  rw [run_append (run_inert _ hinert), run_singleton, step_open _ rfl, openBlock]
  simp only [if_neg hinside, selector?_text hgap hf.newline]
  rfl

theorem run_declaration {selector : String} {declared : List (String × String)}
    {e : String × String} (h : DeclarationReadable d e) (hgap : IsGap gap) :
    (declarationText o e ++ [';']).foldlM (step d o)
        ⟨gap, false, layer, some (selector, declared), rules⟩ =
      some ⟨[], false, layer, some (selector, declared ++ [e]), rules⟩ := by
  rw [run_append (run_inert _ (inert_declarationText h)), run_singleton, step_semicolon _ rfl rfl,
    endDeclaration]
  simp only [declaration?_text hgap h]
  rfl

theorem run_lines {selector : String} {declared entries : List (String × String)}
    (h : ∀ e ∈ entries, DeclarationReadable d e) :
    (entries.flatMap fun e => declarationText o e ++ [';', '\n']).foldlM (step d o)
        ⟨['\n'], false, layer, some (selector, declared), rules⟩ =
      some ⟨['\n'], false, layer, some (selector, declared ++ entries), rules⟩ := by
  induction entries generalizing declared with
  | nil => simp
  | cons e rest ih =>
    have hline : (declarationText o e ++ [';', '\n']).foldlM (step d o)
        ⟨['\n'], false, layer, some (selector, declared), rules⟩ =
          some ⟨['\n'], false, layer, some (selector, declared ++ [e]), rules⟩ := by
      rw [List.append_cons, run_append (run_declaration (h e (by simp)) isGap_newline)]
      exact run_gap isGap_newline
    rw [List.flatMap_cons, run_append hline, ih fun x hx => h x (by simp [hx])]
    simp

theorem run_joined {selector : String} {declared entries : List (String × String)}
    (ho : o.style = .compressed) (hne : entries ≠ [])
    (h : ∀ e ∈ entries, DeclarationReadable d e) :
    ([';'].intercalate (entries.map (declarationText o)) ++ ['\x7d']).foldlM (step d o)
        ⟨[], false, layer, some (selector, declared), rules⟩ =
      some ⟨[], false, layer, none, rules ++ [⟨layer, selector, declared ++ entries⟩]⟩ := by
  induction entries generalizing declared with
  | nil => exact absurd rfl hne
  | cons e rest ih =>
    have he := h e (by simp)
    cases rest with
    | nil =>
      have hread : declaration? o (declarationText o e) = some e := declaration?_text isGap_nil he
      rw [List.map_singleton, List.intercalate_singleton,
        run_append (run_inert _ (inert_declarationText he)), run_singleton, step_close _ rfl,
        closeBlock]
      simp only [lastDeclarations, ho, List.nil_append, hread]
      rfl
    | cons e' rest =>
      have hsplit : [';'].intercalate ((e :: e' :: rest).map (declarationText o)) ++ ['\x7d'] =
          (declarationText o e ++ [';']) ++
            ([';'].intercalate ((e' :: rest).map (declarationText o)) ++ ['\x7d']) := by
        simp [List.intercalate]
      rw [hsplit, run_append (run_declaration he isGap_nil),
        ih (by simp) fun x hx => h x (by simp [hx])]
      simp

variable {layers : LayerMode}

def indentText (o : OutputOptions) : String := String.ofList (indent o.style (depth o.layers))

theorem toList_indentText : (indentText o).toList = indent o.style (depth o.layers) :=
  String.toList_ofList

theorem toList_line (e : String × String) :
    (indentText ⟨layers, .expanded⟩ ++ "  " ++ e.1 ++ ": " ++ e.2 ++ ";\n").toList =
      declarationText ⟨layers, .expanded⟩ e ++ [';', '\n'] := by
  have hdeeper : indent .expanded (depth layers + 1) =
      indent .expanded (depth layers) ++ [' ', ' '] := by
    cases layers <;> rfl
  simp [toList_indentText, declarationText, space, hdeeper]

theorem toList_expanded (f : Fragment) :
    (f.expanded (indentText ⟨layers, .expanded⟩)).toList =
      ((indent .expanded (depth layers) ++ (f.selector.toList ++ space .expanded)) ++ ['\x7b']) ++
        (['\n'] ++
          ((f.declarations.entries.flatMap fun e =>
              declarationText ⟨layers, .expanded⟩ e ++ [';', '\n']) ++
            (indent .expanded (depth layers) ++ (['\x7d'] ++ ['\n'])))) := by
  rw [Fragment.expanded]
  simp only [String.toList_append, String.toList_join, List.flatMap_map]
  simp only [← toList_line, String.toList_append, toList_indentText]
  simp [space]

theorem toList_compressed (layers : LayerMode) (f : Fragment) :
    f.compressed.toList =
      ((indent .compressed (depth layers) ++ (f.selector.toList ++ space .compressed)) ++
          ['\x7b']) ++
        ([';'].intercalate
          (f.declarations.entries.map (declarationText ⟨layers, .compressed⟩)) ++ ['\x7d']) := by
  have htext : (fun e : String × String => (e.1 ++ ":" ++ e.2).toList) =
      declarationText ⟨layers, .compressed⟩ := by
    funext e
    simp [declarationText, indent, space]
  rw [Fragment.compressed]
  simp [← htext, indent, space, Function.comp_def]

def ruleOf (layer : Option Layer) (f : Fragment) : StyleRule :=
  ⟨layer, f.selector, f.declarations.entries⟩

theorem run_expanded (hf : f.Readable d) (hgap : IsGap gap)
    (hlayer : layers = .layered → layer ≠ none) :
    (f.expanded (indentText ⟨layers, .expanded⟩)).toList.foldlM (step d ⟨layers, .expanded⟩)
        ⟨gap, false, layer, none, rules⟩ =
      some ⟨['\n'], false, layer, none, rules ++ [ruleOf layer f]⟩ := by
  have hclose : unindent .expanded (depth layers) (['\n'] ++ indent .expanded (depth layers)) =
      some [] := unindent_indent isGap_newline
  have hbrace : ['\x7d'].foldlM (step d ⟨layers, .expanded⟩)
      ⟨['\n'] ++ indent .expanded (depth layers), false, layer,
        some (f.selector, [] ++ f.declarations.entries), rules⟩ =
      some ⟨[], false, layer, none, rules ++ [ruleOf layer f]⟩ := by
    rw [run_singleton, step_close _ rfl, closeBlock]
    simp only [lastDeclarations, hclose, if_true, Option.map_some, List.append_nil]
    rfl
  rw [toList_expanded, run_append (run_selector (o := ⟨layers, .expanded⟩) hf hgap hlayer),
    run_append (run_gap isGap_newline), List.nil_append,
    run_append (run_lines (o := ⟨layers, .expanded⟩) hf.declarations),
    run_append (run_inert _ (inert_blanks _)), run_append hbrace]
  exact run_gap isGap_newline

theorem run_compressed (hf : f.Readable d) (heffective : f.isEffective) (hgap : IsGap gap)
    (hlayer : layers = .layered → layer ≠ none) :
    f.compressed.toList.foldlM (step d ⟨layers, .compressed⟩) ⟨gap, false, layer, none, rules⟩ =
      some ⟨[], false, layer, none, rules ++ [ruleOf layer f]⟩ := by
  have hne : f.declarations.entries ≠ [] := by
    simpa [Fragment.isEffective, OrderedMap.isEmpty] using heffective
  rw [toList_compressed layers,
    run_append (run_selector (o := ⟨layers, .compressed⟩) hf hgap hlayer),
    run_joined rfl hne hf.declarations]
  simp [ruleOf]

end Reader

end UtilityCss.Css
