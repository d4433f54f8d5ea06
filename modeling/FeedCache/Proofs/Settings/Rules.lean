/-
This file reads the rules for settings field by field.

Main statement: settings break no rule exactly if each field keeps the rule that is documented for
it, and otherwise the first field that does not is reported.
-/
import FeedCache.Settings.Rules

namespace FeedCache.Settings

/-- The text names a scheme: there is a colon with two slashes in it. -/
def NamesScheme (text : String) : Prop :=
  ∃ before after, text.toList = before ++ ':' :: '/' :: '/' :: after

/-- The documented rule of each field. A path is separated by slashes of either kind and by the zero
character. Two of the fields may hold anything. -/
def KeepsRule (settings : Settings) : Field → Prop
  | .timeout => 100 ≤ settings.timeout ∧ settings.timeout ≤ 300000
  | .maxRetries => 1 ≤ settings.maxRetries ∧ settings.maxRetries ≤ 20
  | .maxRedirects => 1 ≤ settings.maxRedirects ∧ settings.maxRedirects ≤ 20
  | .retryBackoff => settings.retryBackoff ≤ 60000
  | .maxBytes => 1 ≤ settings.maxBytes ∧ settings.maxBytes ≤ 52428800
  | .namespaceName => settings.namespaceName ≠ "" ∧
      ∀ c ∈ settings.namespaceName.toList, c ≠ '/' ∧ c ≠ '\\' ∧ c ≠ '\x00'
  | .userAgent => settings.userAgent ≠ ""
  | .proxy => ∀ proxy ∈ settings.proxy, NamesScheme proxy
  | .httpProxy => ∀ proxy ∈ settings.httpProxy, NamesScheme proxy
  | .httpsProxy => ∀ proxy ∈ settings.httpsProxy, NamesScheme proxy
  | .basePath | .noProxy => True

/-- The fields with a rule, in the order in which they are checked. -/
def checkedFields : List Field :=
  [.timeout, .maxRetries, .maxRedirects, .retryBackoff, .maxBytes, .namespaceName, .userAgent,
    .proxy, .httpProxy, .httpsProxy]

/-- The field is the first of all to break its rule. -/
structure BreaksFirst (settings : Settings) (field : Field) : Prop where
  broken : ¬settings.KeepsRule field
  earlier : ∀ other ∈ checkedFields.takeWhile (· ≠ field), settings.KeepsRule other

theorem hasScheme_iff (text : List Char) :
    hasScheme text ↔ ∃ before after, text = before ++ ':' :: '/' :: '/' :: after := by
  fun_induction hasScheme text with
  | case1 rest => exact iff_of_true rfl ⟨[], rest, rfl⟩
  | case2 c rest other hypothesis =>
      rw [hypothesis]
      constructor
      · rintro ⟨before, after, rfl⟩
        exact ⟨c :: before, after, rfl⟩
      · rintro ⟨before, after, same⟩
        cases before with
        | nil =>
            rw [List.nil_append, List.cons.injEq] at same
            exact absurd same.2 (other after same.1)
        | cons d before =>
            rw [List.cons_append, List.cons.injEq] at same
            exact ⟨before, after, same.2⟩
  | case3 => simp

theorem lacksScheme_eq_false {proxy : Option String} :
    lacksScheme proxy = false ↔ ∀ text ∈ proxy, NamesScheme text := by
  cases proxy with
  | none => simp [lacksScheme]
  | some text => simp [lacksScheme, NamesScheme, ← hasScheme_iff]

/-- A field keeps its rule if it passes all tests that speak of it. -/
theorem keepsRule_iff (settings : Settings) (field : Field) :
    settings.KeepsRule field ↔
      ∀ rule ∈ rules, rule.1.field = field → rule.2 settings = false := by
  cases field <;>
    simp [rules, KeepsRule, Violation.field, lacksScheme_eq_false, Store.isSeparator,
      Nat.one_le_iff_ne_zero, and_assoc]

/-- The tests of a field all come before those of the fields that are checked later. -/
theorem rules_inOrder : (rules.map Prod.fst).Pairwise fun first second =>
    second.field ∉ checkedFields.takeWhile (· ≠ first.field) := by
  decide

theorem violation?_eq_none {settings : Settings} :
    settings.violation? = none ↔ ∀ field, settings.KeepsRule field := by
  rw [violation?, Option.map_eq_none_iff, List.find?_eq_none]
  constructor
  · intro passed field
    exact (keepsRule_iff settings field).2 fun rule member _ => by simpa using passed rule member
  · intro kept rule member
    simpa using (keepsRule_iff settings rule.1.field).1 (kept _) rule member rfl

/-- The violation that is reported is one of the first field to break its rule. -/
theorem breaksFirst_of_violation? {settings : Settings} {violation : Violation}
    (violated : settings.violation? = some violation) : settings.BreaksFirst violation.field := by
  obtain ⟨⟨violation, breaks⟩, found, rfl⟩ := Option.map_eq_some_iff.1 violated
  obtain ⟨broken, before, after, order, passed⟩ := List.find?_eq_some_iff_append.1 found
  constructor
  · intro kept
    have member : (violation, breaks) ∈ rules := order ▸ List.mem_append_cons_self
    exact Bool.false_ne_true
      (((keepsRule_iff settings violation.field).1 kept _ member rfl).symm.trans broken)
  · intro other earlier
    refine (keepsRule_iff settings other).2 fun rule member same => ?_
    have inOrder := rules_inOrder
    rw [order, List.map_append, List.map_cons, List.pairwise_append, List.pairwise_cons] at inOrder
    rw [order, List.mem_append, List.mem_cons] at member
    rcases member with front | rfl | back
    · simpa using passed rule front
    · have apart := List.all_eq_true.1 List.all_takeWhile other earlier
      simp [same] at apart
    · exact absurd (same ▸ earlier) (inOrder.2.1.1 rule.1 (List.mem_map_of_mem back))

end FeedCache.Settings
