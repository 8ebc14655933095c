import Mathlib.Data.List.Forall2
import SqlTriage.Proofs.Classify.Verdict

/-!
# Tokens that rules cannot tell apart

A rule compares a token with words that hold no quotes and asks whether it can name something.
Tokens that agree on this are alike (`Token.Alike`), and on two lists of tokens that are alike one
by one a table reaches the same verdict, up to the token that it captures
(`RuleTable.verdict?_rel`).
-/

namespace SqlTriage

open SqlTriage.Text SqlTriage.Lexical

/-- No word of the list holds a quote. -/
def quoteFree (words : List String) : Bool :=
  words.all fun w => !w.toList.any isQuote

/-- The words of a step. -/
def Step.words : Step → List String
  | .keyword words | .optional words => words
  | .any => []

/-- No word of the table holds a quote. -/
def RuleTable.QuoteFree (table : RuleTable) : Prop :=
  ∀ r ∈ table.rules, ∀ step ∈ r.steps, quoteFree step.words = true

theorem Dialect.quoteFree_table (d : Dialect) : d.table.QuoteFree := by
  unfold RuleTable.QuoteFree
  cases d <;> decide

namespace Lexical.Token

/-- No rule whose words hold no quotes can tell the tokens apart. -/
def Alike (t u : Token) : Prop :=
  (∀ w : String, w.toList.any isQuote = false → (t.folded = w ↔ u.folded = w)) ∧
    t.isIdentifier = u.isIdentifier

theorem alike_of_text_eq {t u : Token} (h : t.text = u.text) : t.Alike u := by
  refine ⟨fun w _ => ?_, ?_⟩
  · rw [folded, folded, h]
  · rw [isIdentifier, isIdentifier, h]

theorem Alike.isOneOf {t u : Token} (h : t.Alike u) {words : List String}
    (hw : quoteFree words = true) : t.isOneOf words = u.isOneOf words := by
  have hw : ∀ w ∈ words, w.toList.any isQuote = false := by
    intro w hm
    simpa only [Bool.not_eq_true'] using List.all_eq_true.1 hw w hm
  rw [Token.isOneOf, Token.isOneOf, Bool.eq_iff_iff, List.contains_iff_mem, List.contains_iff_mem]
  constructor
  · intro ht
    have hu : u.folded = t.folded := (h.1 t.folded (hw _ ht)).1 rfl
    rwa [hu]
  · intro hu
    have ht : t.folded = u.folded := (h.1 u.folded (hw _ hu)).2 rfl
    rwa [ht]

end Lexical.Token

/-! ## Related lists and options -/

section Related

variable {α β γ δ : Type} {R : α → β → Prop} {S : γ → δ → Prop}

theorem forall₂_dropWhile {l : List α} {l' : List β} (h : List.Forall₂ R l l') {p : α → Bool}
    {p' : β → Bool} (hp : ∀ a b, R a b → p a = p' b) :
    List.Forall₂ R (l.dropWhile p) (l'.dropWhile p') := by
  induction h with
  | nil => exact .nil
  | cons ha hl ih =>
    rw [List.dropWhile_cons, List.dropWhile_cons, hp _ _ ha]
    split
    · exact ih
    · exact .cons ha hl

theorem any_eq_of_forall₂ {l : List α} {l' : List β} (h : List.Forall₂ R l l') {p : α → Bool}
    {p' : β → Bool} (hp : ∀ a b, R a b → p a = p' b) : l.any p = l'.any p' := by
  induction h with
  | nil => rfl
  | cons ha hl ih => rw [List.any_cons, List.any_cons, hp _ _ ha, ih]

theorem getElem?_rel {l : List α} {l' : List β} (h : List.Forall₂ R l l') (i : Nat) :
    Option.Rel R l[i]? l'[i]? := by
  induction h generalizing i with
  | nil => exact .none
  | cons ha hl ih =>
    cases i with
    | zero => exact .some ha
    | succ i => exact ih i

theorem optionRel_map {o : Option α} {o' : Option β} (h : Option.Rel R o o') {f : α → γ}
    {f' : β → δ} (hf : ∀ a b, R a b → S (f a) (f' b)) : Option.Rel S (o.map f) (o'.map f') := by
  cases h with
  | none => exact .none
  | some ha => exact .some (hf _ _ ha)

theorem optionRel_filter {o : Option α} {o' : Option β} (h : Option.Rel R o o') {p : α → Bool}
    {p' : β → Bool} (hp : ∀ a b, R a b → p a = p' b) :
    Option.Rel R (o.filter p) (o'.filter p') := by
  cases h with
  | none => exact .none
  | @some a b ha =>
    rw [Option.filter_some, Option.filter_some, hp a b ha]
    split
    · exact .some ha
    · exact .none

theorem any_eq_of_optionRel {o : Option α} {o' : Option β} (h : Option.Rel R o o') {p : α → Bool}
    {p' : β → Bool} (hp : ∀ a b, R a b → p a = p' b) : o.any p = o'.any p' := by
  cases h with
  | none => rfl
  | some ha => exact hp _ _ ha

end Related

/-! ## Matching -/

/-- The verdicts agree, and their captured tokens are related. -/
structure Verdict.Rel (R : Token → Token → Prop) (v w : Verdict) : Prop where
  family : v.family = w.family
  modifiers : v.modifiers = w.modifiers
  target : Option.Rel R v.target w.target

variable {R : Token → Token → Prop} {ts us : List Token}

theorem consumedBy?_eq_of_alike (h : List.Forall₂ Token.Alike ts us) {steps : List Step}
    (hs : ∀ step ∈ steps, quoteFree step.words = true) :
    consumedBy? steps ts = consumedBy? steps us := by
  induction steps generalizing ts us with
  | nil => rfl
  | cons step steps ih =>
    have hstep : quoteFree step.words = true := hs step List.mem_cons_self
    have hrest : ∀ step ∈ steps, quoteFree step.words = true :=
      fun s hm => hs s (List.mem_cons_of_mem step hm)
    cases h with
    | nil => rfl
    | cons ht hts =>
      cases step with
      | keyword words =>
        have hword := ht.isOneOf (show quoteFree words = true from hstep)
        simp only [consumedBy?, hword, ih hts hrest]
      | optional words =>
        have hword := ht.isOneOf (show quoteFree words = true from hstep)
        simp only [consumedBy?, hword, ih hts hrest, ih (.cons ht hts) hrest]
      | any => simp only [consumedBy?, ih hts hrest]

namespace RuleTable

variable {table : RuleTable}

theorem opens_eq_of_alike (htable : table.QuoteFree) {t u : Token} (h : t.Alike u) :
    table.opens t = table.opens u := by
  have hrule : ∀ r ∈ table.rules, r.startsWith t = r.startsWith u := by
    intro r hr
    unfold Rule.startsWith
    split
    · rename_i words hhead
      exact h.isOneOf (htable r hr (.keyword words) (List.mem_of_head? hhead))
    · rfl
  have hrules : (table.rules.any fun r => r.startsWith t) =
      table.rules.any fun r => r.startsWith u := by
    rw [Bool.eq_iff_iff, List.any_eq_true, List.any_eq_true]
    exact exists_congr fun r => and_congr_right fun hr => by rw [hrule r hr]
  rw [opens, opens, h.isOneOf (by decide), hrules]

theorem find?_eq_of_alike (htable : table.QuoteFree) (h : List.Forall₂ Token.Alike ts us) :
    table.find? ts = table.find? us := by
  refine findSome?_congr fun r hr => ?_
  rw [Rule.consumed?, Rule.consumed?, consumedBy?_eq_of_alike h (htable r hr)]

end RuleTable

/-! ## Captures -/

namespace RuleMatch

variable (hR : ∀ t u, R t u → t.Alike u) (h : List.Forall₂ R ts us)
include hR h

theorem identifierAt?_rel (i : Nat) : Option.Rel R (identifierAt? ts i) (identifierAt? us i) :=
  optionRel_filter (getElem?_rel h i) fun t u ht => (hR t u ht).2

theorem captured?_rel (m : RuleMatch) :
    Option.Rel (Option.Rel R) (m.captured? ts) (m.captured? us) := by
  have hid : ∀ i, Option.Rel (Option.Rel R) ((identifierAt? ts i).map some)
      ((identifierAt? us i).map some) := by
    intro i
    exact optionRel_map (identifierAt?_rel hR h i) fun _ _ => .some
  have hfrom : ts[m.consumed]?.any isFromWord = us[m.consumed]?.any isFromWord := by
    apply any_eq_of_optionRel (getElem?_rel h m.consumed)
    intro t u ht
    exact (hR t u ht).isOneOf (by decide)
  unfold captured?
  rw [hfrom]
  split
  · exact .some .none
  · exact hid _
  · exact hid _
  · split
    · exact hid _
    · exact .none
  · split
    · exact hid _
    · exact .some .none

theorem modifiers_eq_of_alike (m : RuleMatch) : m.modifiers ts = m.modifiers us := by
  have hany : ((ts.take m.consumed).any fun t => t.isOneOf ["IGNORE"]) =
      (us.take m.consumed).any fun t => t.isOneOf ["IGNORE"] := by
    apply any_eq_of_forall₂ (List.forall₂_take m.consumed h)
    intro t u ht
    exact (hR t u ht).isOneOf (by decide)
  rw [modifiers, modifiers, hany]

theorem verdict?_rel (m : RuleMatch) :
    Option.Rel (Verdict.Rel R) (m.verdict? ts) (m.verdict? us) := by
  unfold verdict?
  rw [modifiers_eq_of_alike hR h m]
  exact optionRel_map (captured?_rel hR h m) fun _ _ htarget => ⟨rfl, rfl, htarget⟩

end RuleMatch

/-- A table reaches the same verdict on tokens that are alike, up to the captured token. -/
theorem RuleTable.verdict?_rel {table : RuleTable} (htable : table.QuoteFree)
    (hR : ∀ t u, R t u → t.Alike u) (h : List.Forall₂ R ts us) :
    Option.Rel (Verdict.Rel R) (table.verdict? ts) (table.verdict? us) := by
  have hopen : List.Forall₂ R (table.fromOpener ts) (table.fromOpener us) :=
    forall₂_dropWhile h fun t u ht => by rw [opens_eq_of_alike htable (hR t u ht)]
  unfold verdict?
  rw [find?_eq_of_alike htable (hopen.imp hR)]
  cases table.find? (table.fromOpener us) with
  | none => exact .none
  | some m => exact m.verdict?_rel hR hopen

end SqlTriage
