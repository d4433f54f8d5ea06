/-
This file reads merged layers field by field.

Main statements: a variable sets a field if its name is the sign and the name of the field; of the
variables that reach a field the last one counts, and if there is none the file does.
-/
import FeedCache.Proofs.Basic
import FeedCache.Proofs.Text.Characters
import FeedCache.Settings.Load

namespace FeedCache.Settings

section

/-- The variable bears the name of the field behind the sign, whatever the case of the letters and
the blanks around both. -/
def Field.IsNamedBy (field : Field) (name : String) : Prop :=
  ∃ sign text, Text.trim name.toList = sign ++ text ∧ sign.map Char.toLower = variableSign ∧
    Text.trim (text.map lowered) = field.name.toList

variable {c : Char} {text tail : List Char}

/-- Only two underscores in a row are replaced. -/
theorem dotted_cons (single : c = '_' → text.head? ≠ some '_') :
    dotted (c :: text) = c :: dotted text := by
  rw [dotted]
  rintro rest rfl rfl
  exact single rfl rfl

theorem dotted_append_left {front : List Char} (clean : ∀ c ∈ front, c ≠ '_') :
    dotted (front ++ text) = front ++ dotted text := by
  induction front with
  | nil => rfl
  | cons c front hypothesis =>
      rw [List.cons_append, dotted_cons fun same => absurd same (clean c List.mem_cons_self),
        hypothesis fun d member => clean d (List.mem_cons_of_mem c member), List.cons_append]

theorem dotted_append_right (clean : ∀ c ∈ tail, c ≠ '_') :
    dotted (text ++ tail) = dotted text ++ tail := by
  have kept : dotted tail = tail := by
    rw [← List.append_nil tail, dotted_append_left clean]
    rfl
  fun_induction dotted text with
  | case1 rest hypothesis => simp [dotted, hypothesis]
  | case2 c rest other hypothesis =>
      rw [List.cons_append, dotted_cons, hypothesis, List.cons_append]
      rintro rfl starts
      cases rest with
      | nil => exact clean '_' (List.mem_of_mem_head? starts) rfl
      | cons d rest => exact other rest rfl (by simpa using starts)
  | case3 => exact kept

/-- A text that gets no dot is left alone. -/
theorem dotted_of_noDot (noDot : '.' ∉ dotted text) : dotted text = text := by
  fun_induction dotted text with
  | case1 rest hypothesis => exact absurd List.mem_cons_self noDot
  | case2 c rest other hypothesis => rw [hypothesis fun dot => noDot (List.mem_cons_of_mem c dot)]
  | case3 => rfl

theorem Field.noDot_name (field : Field) : '.' ∉ field.name.toList := by
  cases field <;> decide

theorem Field.dotted_name (field : Field) : dotted field.name.toList = field.name.toList := by
  cases field <;> rfl

theorem Field.name_ne_nil (field : Field) : field.name.toList ≠ [] := by
  cases field <;> decide

theorem Field.name_injective {field other : Field}
    (same : field.name.toList = other.name.toList) : field = other := by
  cases field <;> cases other <;> first | rfl | exact absurd same (by decide)

/-- No name of a field has two underscores in a row, so the blanks around one do not matter. -/
theorem trim_dotted {field : Field} :
    Text.trim (dotted text) = field.name.toList ↔ Text.trim text = field.name.toList := by
  constructor
  · intro named
    obtain ⟨front, back, whole, leading, trailing⟩ := Text.exists_strip Text.isBlank (dotted text)
    rw [show Text.strip Text.isBlank (dotted text) = field.name.toList from named] at whole
    have noDot : '.' ∉ dotted text := by
      rw [whole, List.mem_append, List.mem_append]
      rintro ((inFront | inName) | inBack)
      · exact absurd (leading _ inFront) (by decide)
      · exact field.noDot_name inName
      · exact absurd (trailing _ inBack) (by decide)
    rwa [dotted_of_noDot noDot] at named
  · intro named
    obtain ⟨front, back, whole, leading, trailing⟩ := Text.exists_strip Text.isBlank text
    rw [show Text.strip Text.isBlank text = field.name.toList from named] at whole
    have clean {blanks : List Char} (blank : ∀ c ∈ blanks, Text.isBlank c) :
        ∀ c ∈ blanks, c ≠ '_' := by
      rintro c member rfl
      exact absurd (blank _ member) (by decide)
    have kept : dotted text = text := by
      rw [whole, dotted_append_right (clean trailing), dotted_append_left (clean leading),
        field.dotted_name]
    rwa [kept]

theorem pieces_eq_name {field : Field} :
    Text.pieces (· == '.') text = [field.name.toList] ↔ text = field.name.toList := by
  constructor
  · intro cut
    rw [← Text.joined_pieces '.' text, cut, Text.joined]
  · rintro rfl
    refine Text.piecesOfNone _ _ fun c member => ?_
    rw [beq_eq_false_iff_ne]
    rintro rfl
    exact field.noDot_name member

/-- The key of a variable that names a field has no other part. -/
theorem Field.isNamedBy_iff {field : Field} {name : String} :
    field.IsNamedBy name ↔ variableKey? name = some [field.name.toList] := by
  constructor
  · rintro ⟨sign, text, parts, small, named⟩
    have length : variableSign.length = sign.length := by rw [← small, List.length_map]
    have cut := pieces_eq_name.2 (trim_dotted.2 named)
    simp [variableKey?, parts, length, small, cut, field.name_ne_nil]
  · intro found
    simp only [variableKey?] at found
    split at found
    · rename_i small
      split at found
      · cases found
      · have cut := Option.some.inj found
        exact ⟨_, _, (List.take_append_drop variableSign.length _).symm, small,
          trim_dotted.1 (pieces_eq_name.1 cut)⟩
    · cases found

instance (field : Field) (name : String) : Decidable (field.IsNamedBy name) :=
  decidable_of_iff _ Field.isNamedBy_iff.symm

end

/-- The value of a layer under a key, with its origin. -/
def Layer.value? (layer : Layer) (key : List Char) : Option (Value × Origin) :=
  (layer.lookup key).map Tree.seen

theorem Layer.lookup_put (layer : Layer) (key other : List Char) (tree : Tree) :
    (layer.put key tree).lookup other = if other = key then some tree else layer.lookup other := by
  induction layer with
  | nil => exact lookup_cons_ite (key, tree) [] other
  | cons entry rest hypothesis =>
      rw [Layer.put]
      split
      · rename_i here
        rw [lookup_cons_ite, lookup_cons_ite, here]
        split <;> rfl
      · rename_i apart
        rw [lookup_cons_ite, lookup_cons_ite, hypothesis]
        by_cases first : other = entry.1
        · simp [first, apart]
        · simp [first]

theorem Tree.seen_merge (below tree : Tree) : (below.merge tree).seen = tree.seen := by
  cases tree with
  | leaf value origin => rfl
  | branch origin upper => cases below <;> rfl

/-- Under each key the upper layer counts if it has a value there. -/
theorem Layer.value?_merge (lower upper : Layer) (key : List Char) :
    (lower.merge upper).value? key = (upper.value? key).or (lower.value? key) := by
  induction upper with
  | nil => rfl
  | cons entry upper hypothesis =>
      simp only [Layer.value?] at hypothesis ⊢
      rw [Layer.merge, Layer.lookup_put, lookup_cons_ite]
      by_cases same : key = entry.1
      · rw [if_pos same, if_pos same]
        split <;> simp [Tree.seen_merge]
      · rw [if_neg same, if_neg same, hypothesis]

/-- What a variable gives to a field: its value, or a dictionary if it has more names. -/
def Field.variableValue? (field : Field) (entry : String × String) : Option Value :=
  match variableKey? entry.1 with
  | some (name :: inner) =>
      if name = field.name.toList then
        some (if inner.isEmpty then Value.ofSpelling entry.2 else .map)
      else none
  | _ => none

theorem Tree.seen_ofValue (value : Value) (origin : Origin) :
    (Tree.ofValue value origin).seen = (value, origin) := by
  cases value <;> rfl

theorem Layer.value?_ofVariable (entry : String × String) (field : Field) :
    (Layer.ofVariable entry).value? field.name.toList =
      (field.variableValue? entry).map (·, .environment) := by
  rw [Layer.ofVariable, Field.variableValue?]
  rcases variableKey? entry.1 with - | - | ⟨name, inner⟩
  · rfl
  · rfl
  · simp only [Layer.value?, lookup_cons_ite]
    by_cases same : name = field.name.toList
    · cases inner with
      | nil => simp [same, Tree.seen_ofValue]
      | cons next inner => simp [same, Tree.seen]
    · simp [same, Ne.symm same]

theorem Layer.value?_foldl (environment : Environment) (layer : Layer) (field : Field) :
    (environment.foldl (fun layer entry => layer.merge (Layer.ofVariable entry)) layer).value?
        field.name.toList =
      ((environment.reverse.findSome? field.variableValue?).map (·, .environment)).or
        (layer.value? field.name.toList) := by
  induction environment generalizing layer with
  | nil => rfl
  | cons entry environment hypothesis =>
      rw [List.foldl_cons, hypothesis, Layer.value?_merge, Layer.value?_ofVariable,
        List.reverse_cons, List.findSome?_append, ← Option.or_assoc, Option.map_or]
      cases given : field.variableValue? entry <;> simp [given]

/-- The last variable that reaches a field counts. -/
theorem Layer.value?_ofEnvironment (environment : Environment) (field : Field) :
    (Layer.ofEnvironment environment).value? field.name.toList =
      (environment.reverse.findSome? field.variableValue?).map (·, .environment) :=
  (Layer.value?_foldl environment [] field).trans Option.or_none

theorem Layer.lookup_ofEntries (path : String) (entries : Toml.Entries) (key : List Char) :
    (Layer.ofEntries path entries).lookup key = (entries.lookup key).map (Tree.ofItem path) := by
  induction entries with
  | nil => rfl
  | cons entry entries hypothesis =>
      rw [Layer.ofEntries, lookup_cons_ite, lookup_cons_ite, hypothesis]
      split <;> rfl

theorem Layer.value?_ofEntries (path : String) (entries : Toml.Entries) (field : Field) :
    (Layer.ofEntries path entries).value? field.name.toList =
      (entries.value? field.name).map fun value => (Value.ofToml value, .file path) := by
  rw [Layer.value?, Layer.lookup_ofEntries, Toml.Entries.value?, Toml.Entries.find?]
  cases entries.lookup field.name.toList with
  | none => rfl
  | some item =>
      cases item with
      | value value => exact congrArg some (Tree.seen_ofValue _ _)
      | table form inner => rfl
      | tables last => rfl

/-- The value that a file gives to a field. -/
def Field.fileValue? (field : Field) (file : Option SettingsFile) : Option (Value × Origin) :=
  file.bind fun file =>
    (file.entries.value? field.name).map fun value => (Value.ofToml value, .file file.path)

/-- The value of the highest layer that has one for a field. -/
def Field.highest? (field : Field) (environment : Environment) (file : Option SettingsFile) :
    Option (Value × Origin) :=
  ((environment.reverse.findSome? field.variableValue?).map (·, .environment)).or
    (field.fileValue? file)

/-- The merged layers give each field the value of the highest layer that has one. -/
theorem find?_eq_highest? (environment : Environment) (file : Option SettingsFile) (field : Field) :
    find? environment file field = field.highest? environment file := by
  have found : find? environment file field = (layers environment file).value? field.name.toList :=
    rfl
  rw [found, layers, Layer.value?_merge, Layer.value?_ofEnvironment]
  cases file with
  | none => rfl
  | some file => rw [Option.map_some, Option.getD_some, Layer.value?_ofEntries]; rfl

/-- The text of the last variable that bears the name of the field. -/
def Field.spelling? (field : Field) (environment : Environment) : Option String :=
  (environment.reverse.find? fun entry => field.IsNamedBy entry.1).map Prod.snd

/-- The value of the last variable with the name of the field; without one, that of the file. -/
def Field.assigned? (field : Field) (environment : Environment) (file : Option SettingsFile) :
    Option Value :=
  ((field.spelling? environment).map Value.ofSpelling).or ((field.fileValue? file).map Prod.fst)

/-- The variable leads to the field or into it. -/
def Field.isReachedBy (field : Field) (name : String) : Bool :=
  (variableKey? name).any fun names => names.head? == some field.name.toList

section

variable {environment : Environment} {file : Option SettingsFile} {field : Field}
  {entry : String × String}

theorem Field.variableValue?_of_named (named : field.IsNamedBy entry.1) :
    field.variableValue? entry = some (Value.ofSpelling entry.2) := by
  rw [Field.variableValue?, isNamedBy_iff.1 named]
  simp

theorem Field.named_of_variableValue? {value : Value}
    (present : field.variableValue? entry = some value) (plain : value ≠ .map) :
    field.IsNamedBy entry.1 := by
  rw [Field.variableValue?] at present
  split at present
  · rename_i name inner key
    split at present
    · rename_i same
      cases inner with
      | nil => rw [isNamedBy_iff, key, same]
      | cons next inner => exact absurd (Option.some.inj present).symm plain
    · cases present
  · cases present

theorem Field.variableValue?_eq_none (unreached : field.isReachedBy entry.1 = false) :
    field.variableValue? entry = none := by
  rw [Field.isReachedBy] at unreached
  rw [Field.variableValue?]
  split
  · rename_i name inner key
    rw [key] at unreached
    exact if_neg (by simpa using unreached)
  · rfl

/-- Each variable leads to one field at most. -/
theorem Field.unreached {name : String} {field other : Field} (reached : field.isReachedBy name)
    (apart : other ≠ field) : other.isReachedBy name = false := by
  rw [Field.isReachedBy] at reached ⊢
  cases key : variableKey? name with
  | none => rfl
  | some names =>
      rw [key] at reached
      have head : names.head? = some field.name.toList := by simpa using reached
      simpa [head] using fun same => apart (Field.name_injective same).symm

/-- If the first value is no dictionary, the first variable to reach the field bears its name: one
that leads into the field would have given a dictionary. -/
theorem Field.findSome?_variableValue? {entries : List (String × String)}
    (plain : entries.findSome? field.variableValue? ≠ some .map) :
    entries.findSome? field.variableValue? =
      ((entries.find? fun entry => field.IsNamedBy entry.1).map Prod.snd).map Value.ofSpelling := by
  induction entries with
  | nil => rfl
  | cons entry entries hypothesis =>
      rw [List.findSome?_cons] at plain ⊢
      cases present : field.variableValue? entry with
      | none =>
          have unnamed : ¬ field.IsNamedBy entry.1 := fun named =>
            nomatch present.symm.trans (variableValue?_of_named named)
          rw [present] at plain
          rw [List.find?_cons_of_neg (by simpa using unnamed)]
          exact hypothesis plain
      | some value =>
          have named := named_of_variableValue? present fun same => plain (by rw [present, same])
          rw [List.find?_cons_of_pos (by simpa using named)]
          exact present.symm.trans (variableValue?_of_named named)

/-- Unless a dictionary counts, it is a variable with the very name of the field that counts. -/
theorem Field.highest?_eq_assigned?
    (plain : ∀ origin, field.highest? environment file ≠ some (.map, origin)) :
    (field.highest? environment file).map Prod.fst = field.assigned? environment file := by
  have noDictionary : environment.reverse.findSome? field.variableValue? ≠ some .map := by
    intro dictionary
    exact plain .environment (by rw [Field.highest?, dictionary]; rfl)
  rw [Field.highest?, Option.map_or, Field.assigned?, Field.spelling?,
    ← Field.findSome?_variableValue? noDictionary, Option.map_map]
  exact congrArg (Option.or · _) Option.map_id_apply

/-- Variables that do not lead to a field give it nothing. -/
theorem Field.variables_filter {keeps : String × String → Bool} (environment : Environment)
    (passed : ∀ entry, keeps entry = false → field.isReachedBy entry.1 = false) :
    (environment.filter keeps).reverse.findSome? field.variableValue? =
      environment.reverse.findSome? field.variableValue? := by
  rw [← List.filter_reverse]
  exact findSome?_filter _ fun entry dropped => variableValue?_eq_none (passed entry dropped)

end

end FeedCache.Settings
