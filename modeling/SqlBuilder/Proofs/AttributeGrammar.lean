import Mathlib.Tactic.SplitIfs
import SqlBuilder.Declaration.Attribute

/-!
# The grammar of field attributes

Between the brackets of an attribute stand options with commas between them, and
perhaps a comma behind the last one.  Reading accepts exactly such lists.  A field
is left out if some option says so, and the last column stated is the one that counts.

Attributes of a field are read one after the other, those with another path apart.
They say what a single attribute with all their options in order says, however the
options are spread over them.
-/

namespace SqlBuilder

/-- An option of a field, as it stands in an attribute. -/
inductive FieldOption where
  | skip
  | column (name : String) (present : name ≠ "")
deriving DecidableEq

namespace FieldOption

/-- The tokens of an option. -/
def tokens : FieldOption → List Token
  | .skip => [.word "skip"]
  | .column name _ => [.word "column", .punctuation '=', .string name]

/-- The column that an option states. -/
def column? : FieldOption → Option String
  | .skip => none
  | .column name _ => some name

/-- Options one after the other, with a comma between neighbours. -/
def separated (options : List FieldOption) : List Token :=
  List.intercalate [.punctuation ','] (options.map tokens)

/-- Tokens list options: nothing stands behind the last of them but perhaps a comma. -/
def Lists (listed : List Token) (options : List FieldOption) : Prop :=
  listed = separated options ∨ options ≠ [] ∧ listed = separated options ++ [.punctuation ',']

variable {option : FieldOption} {options : List FieldOption} {listed : List Token}

@[simp]
theorem separated_nil : separated [] = [] := rfl

@[simp]
theorem separated_singleton (option : FieldOption) : separated [option] = option.tokens := by
  simp [separated, List.intercalate]

@[simp]
theorem separated_cons_cons (option next : FieldOption) (rest : List FieldOption) :
    separated (option :: next :: rest) =
      option.tokens ++ .punctuation ',' :: separated (next :: rest) := by
  simp [separated, List.intercalate]

theorem lists_separated (options : List FieldOption) : Lists (separated options) options :=
  .inl rfl

theorem lists_nil_iff : Lists listed [] ↔ listed = [] := by
  simp [Lists]

/-- Behind the first option the list ends, or goes on behind a comma. -/
theorem lists_cons_iff :
    Lists listed (option :: options) ↔
      listed = option.tokens ∧ options = [] ∨
        ∃ behind, listed = option.tokens ++ .punctuation ',' :: behind ∧
          Lists behind options := by
  cases options with
  | nil => simp [Lists]
  | cons next rest =>
      constructor
      · rintro (rfl | ⟨-, rfl⟩)
        · exact .inr ⟨_, separated_cons_cons .., .inl rfl⟩
        · exact .inr ⟨_, by simp, .inr ⟨List.cons_ne_nil _ _, rfl⟩⟩
      · rintro (⟨-, none⟩ | ⟨behind, rfl, rfl | ⟨-, rfl⟩⟩)
        · exact absurd none (List.cons_ne_nil _ _)
        · exact .inl (separated_cons_cons ..).symm
        · exact .inr ⟨List.cons_ne_nil _ _, by simp⟩

end FieldOption

namespace FieldOptions

variable {given result : FieldOptions} {listed : List Token}

/-! ## What options amount to -/

/-- What a list of options amounts to. -/
def ofList (options : List FieldOption) : FieldOptions where
  column := (options.filterMap FieldOption.column?).getLast?
  skip := decide (.skip ∈ options)

theorem eq_ofList_iff {options : List FieldOption} :
    result = ofList options ↔
      (result.skip = true ↔ .skip ∈ options) ∧
        result.column = (options.filterMap FieldOption.column?).getLast? := by
  obtain ⟨column, skip⟩ := result
  simp only [ofList, FieldOptions.mk.injEq]
  rw [and_comm, Bool.eq_iff_iff, decide_eq_true_iff]

@[simp]
theorem merge_empty (given : FieldOptions) : given.merge empty = given := by
  simp [merge, empty]

@[simp]
theorem empty_merge (given : FieldOptions) : empty.merge given = given := by
  simp [merge, empty]

theorem merge_assoc (first second third : FieldOptions) :
    (first.merge second).merge third = first.merge (second.merge third) := by
  simp [merge, Option.or_assoc, Bool.or_assoc]

@[simp]
theorem ofList_nil : ofList [] = empty := rfl

theorem ofList_append (front back : List FieldOption) :
    ofList (front ++ back) = (ofList front).merge (ofList back) := by
  simp [ofList, merge, List.getLast?_append, Bool.decide_or]

/-! ## Reading the tokens of an attribute -/

/-- Behind an option stands nothing, or a comma with further options. -/
theorem readSeparator_eq_ok_iff :
    readSeparator given listed = .ok result ↔
      listed = [] ∧ given = result ∨
        ∃ behind, listed = .punctuation ',' :: behind ∧ read given behind = .ok result := by
  unfold readSeparator
  split <;> simp_all

/-- An option is read before what stands behind it. -/
theorem read_tokens_append (option : FieldOption) (behind : List Token) :
    read given (option.tokens ++ behind) =
      readSeparator (given.merge (ofList [option])) behind := by
  cases option with
  | skip =>
      have word : "skip" ∉ declarationKeywords := by decide
      simp [FieldOption.tokens, read, word, skipped, ofList, FieldOption.column?]
  | column name present =>
      have word : "column" ∉ declarationKeywords := by decide
      simp [FieldOption.tokens, read, word, present, stating, ofList, FieldOption.column?]

/-- What is read opens with an option, unless there is nothing to read. -/
theorem exists_option_of_read (accepted : read given listed = .ok result) :
    listed = [] ∧ given = result ∨
      ∃ (option : FieldOption) (behind : List Token), listed = option.tokens ++ behind := by
  unfold read at accepted
  split at accepted
  case h_1 => exact .inl ⟨rfl, Except.ok.inj accepted⟩
  case h_2 name behind =>
    split_ifs at accepted with keyword skips states
    · exact .inr ⟨.skip, behind, by rw [skips]; rfl⟩
    · split at accepted
      case h_1 column behind =>
        split_ifs at accepted with blank
        exact .inr ⟨.column column blank, behind, by rw [states]; rfl⟩
      all_goals cases accepted
  case h_3 => cases accepted

/-- A list of options is read, and what it amounts to is added. -/
theorem read_of_lists {options : List FieldOption} (lists : FieldOption.Lists listed options) :
    read given listed = .ok (given.merge (ofList options)) := by
  induction options generalizing given listed with
  | nil =>
      rw [FieldOption.lists_nil_iff.mp lists]
      simp [read]
  | cons option options ih =>
      rw [← List.singleton_append, ofList_append, ← merge_assoc]
      rcases FieldOption.lists_cons_iff.mp lists with ⟨rfl, rfl⟩ | ⟨behind, rfl, others⟩
      · rw [← List.append_nil option.tokens, read_tokens_append, readSeparator_eq_ok_iff]
        exact .inl ⟨rfl, by simp⟩
      · rw [read_tokens_append, readSeparator_eq_ok_iff]
        exact .inr ⟨behind, rfl, ih others⟩

/-- Only lists of options are read. -/
theorem exists_lists_of_read (accepted : read given listed = .ok result) :
    ∃ options, FieldOption.Lists listed options := by
  -- The tokens behind an option and its comma are fewer.
  induction size : listed.length using Nat.strongRecOn generalizing given listed with
  | ind count ih =>
      rcases exists_option_of_read accepted with ⟨rfl, -⟩ | ⟨option, behind, rfl⟩
      · exact ⟨[], .inl rfl⟩
      rw [read_tokens_append, readSeparator_eq_ok_iff] at accepted
      rcases accepted with ⟨rfl, -⟩ | ⟨rest, rfl, accepted⟩
      · exact ⟨[option], .inl (by simp)⟩
      have shorter : rest.length < count := by
        rw [← size, List.length_append, List.length_cons]
        omega
      obtain ⟨options, lists⟩ := ih _ shorter accepted rfl
      exact ⟨option :: options, FieldOption.lists_cons_iff.mpr (.inr ⟨rest, rfl, lists⟩)⟩

/-- Reading accepts exactly the lists of options, and adds what they amount to. -/
theorem read_eq_ok_iff :
    read given listed = .ok result ↔
      ∃ options, FieldOption.Lists listed options ∧ result = given.merge (ofList options) := by
  constructor
  · intro accepted
    obtain ⟨options, lists⟩ := exists_lists_of_read accepted
    exact ⟨options, lists, Except.ok.inj (accepted.symm.trans (read_of_lists lists))⟩
  · rintro ⟨options, lists, rfl⟩
    exact read_of_lists lists

example :
    read empty [.word "column", .punctuation '=', .string "B", .punctuation ',', .word "skip",
        .punctuation ','] = .ok ⟨some "B", true⟩ ∧
      read empty [.word "skip", .word "skip"] = .error .expectedComma :=
  ⟨rfl, rfl⟩

end FieldOptions

/-! ## The attributes of a field -/

namespace Attribute

/-- An attribute that holds options.  Layout does not belong to its path. -/
def HoldsOptions (given : Attribute) : Prop :=
  Lexeme.nameOf given.path = FieldOptions.attributePath

/-- The attribute with the given tokens between its brackets. -/
def holding (listed : List Token) : Attribute where
  path := FieldOptions.attributePath
  arguments := .bracketed listed

/-- The options of the attributes of a field, in order; attributes with another path have none. -/
inductive Give : List Attribute → List FieldOption → Prop
  | nil : Give [] []
  | foreign {given : Attribute} {attributes : List Attribute} {options : List FieldOption}
      (other : ¬ given.HoldsOptions) (rest : Give attributes options) :
      Give (given :: attributes) options
  | own {given : Attribute} {attributes : List Attribute} {listed : List Token}
      {own options : List FieldOption}
      (holds : given.HoldsOptions) (bracketed : given.arguments = .bracketed listed)
      (lists : FieldOption.Lists listed own) (rest : Give attributes options) :
      Give (given :: attributes) (own ++ options)

theorem holdsOptions_holding (listed : List Token) : (holding listed).HoldsOptions := by
  have word : Lexeme.nameOf FieldOptions.attributePath = FieldOptions.attributePath := by decide
  exact word

end Attribute

namespace FieldOptions

variable {given result : FieldOptions} {attributes : List Attribute}

/-- An attribute is accepted where it has brackets with a list of options between them. -/
theorem ofAttribute_eq_ok_iff {held : Attribute} :
    ofAttribute held = .ok result ↔
      ∃ listed options, held.arguments = .bracketed listed ∧
        FieldOption.Lists listed options ∧ result = ofList options := by
  unfold ofAttribute
  cases held.arguments with
  | bracketed listed => simp [read_eq_ok_iff]
  | absent => simp
  | assigned => simp

theorem addAttribute_foreign {held : Attribute} (foreign : ¬ held.HoldsOptions) :
    addAttribute given held = .ok given :=
  if_neg foreign

theorem addAttribute_own {held : Attribute} (holds : held.HoldsOptions) :
    addAttribute given held = (ofAttribute held).map given.merge :=
  if_pos holds

theorem foldlM_foreign {held : Attribute} (foreign : ¬ held.HoldsOptions) :
    (held :: attributes).foldlM addAttribute given = attributes.foldlM addAttribute given := by
  rw [List.foldlM_cons, addAttribute_foreign foreign]
  rfl

theorem foldlM_own {held : Attribute} (holds : held.HoldsOptions) :
    (held :: attributes).foldlM addAttribute given = .ok result ↔
      ∃ own, ofAttribute held = .ok own ∧
        attributes.foldlM addAttribute (given.merge own) = .ok result := by
  rw [List.foldlM_cons, addAttribute_own holds]
  cases ofAttribute held with
  | error cause => simp [Except.map, bind, Except.bind]
  | ok own => simp [Except.map, bind, Except.bind]

/-- All attributes together add what the options of all of them amount to. -/
theorem foldlM_addAttribute_eq_ok_iff :
    attributes.foldlM addAttribute given = .ok result ↔
      ∃ options, Attribute.Give attributes options ∧ result = given.merge (ofList options) := by
  induction attributes generalizing given with
  | nil =>
      constructor
      · intro accepted
        cases accepted
        exact ⟨[], .nil, by simp⟩
      · rintro ⟨options, ⟨⟩, rfl⟩
        rw [ofList_nil, merge_empty]
        rfl
  | cons held attributes ih =>
      by_cases holds : held.HoldsOptions
      · rw [foldlM_own holds]
        constructor
        · rintro ⟨own, accepted, others⟩
          obtain ⟨listed, front, bracketed, lists, rfl⟩ := ofAttribute_eq_ok_iff.mp accepted
          obtain ⟨options, give, rfl⟩ := ih.mp others
          refine ⟨front ++ options, .own holds bracketed lists give, ?_⟩
          rw [ofList_append, merge_assoc]
        · rintro ⟨_, give, rfl⟩
          cases give with
          | foreign other _ => exact absurd holds other
          | own _ bracketed lists give =>
              refine ⟨_, ofAttribute_eq_ok_iff.mpr ⟨_, _, bracketed, lists, rfl⟩, ?_⟩
              rw [ih, ofList_append]
              exact ⟨_, give, (merge_assoc ..).symm⟩
      · rw [foldlM_foreign holds, ih]
        refine exists_congr fun options => and_congr_left fun _ => ?_
        constructor
        · exact .foreign holds
        · rintro (_ | ⟨_, give⟩ | ⟨own, _⟩)
          · exact give
          · exact absurd own holds

theorem ofAttributes_eq_ok_iff :
    ofAttributes attributes = .ok result ↔
      ∃ options, Attribute.Give attributes options ∧ result = ofList options := by
  rw [ofAttributes, foldlM_addAttribute_eq_ok_iff]
  simp only [empty_merge]

end FieldOptions

/-- Attributes give options exactly where each one that holds options is accepted. -/
theorem Attribute.exists_give_iff {attributes : List Attribute} :
    (∃ options, Give attributes options) ↔
      ∀ held ∈ attributes, held.HoldsOptions →
        ∃ own, FieldOptions.ofAttribute held = .ok own := by
  induction attributes with
  | nil => exact ⟨fun _ _ member => absurd member List.not_mem_nil, fun _ => ⟨[], .nil⟩⟩
  | cons held attributes ih =>
      rw [List.forall_mem_cons, ← ih]
      constructor
      · rintro ⟨_, _ | ⟨other, give⟩ | ⟨holds, bracketed, lists, give⟩⟩
        · exact ⟨fun holds => absurd holds other, _, give⟩
        · exact ⟨fun _ => ⟨_, FieldOptions.ofAttribute_eq_ok_iff.mpr ⟨_, _, bracketed, lists, rfl⟩⟩,
            _, give⟩
      · rintro ⟨accepted, options, give⟩
        by_cases holds : held.HoldsOptions
        · obtain ⟨_, accepted⟩ := accepted holds
          obtain ⟨listed, front, bracketed, lists, -⟩ :=
            FieldOptions.ofAttribute_eq_ok_iff.mp accepted
          exact ⟨_, .own holds bracketed lists give⟩
        · exact ⟨_, .foreign holds give⟩

/--
The tokens of an attribute are accepted exactly where they list options; then a field is
left out if some option says so, and the last column stated is the one that counts.
The attributes of a field are accepted exactly where each one that holds options is.
Then they say what one attribute with all their options in order says, so it does not
matter how options are spread over attributes.
-/
theorem FieldOptions.ofAttributes_asOneList :
    (∀ listed result, read empty listed = .ok result ↔
      ∃ options, FieldOption.Lists listed options ∧
        (result.skip = true ↔ .skip ∈ options) ∧
        result.column = (options.filterMap FieldOption.column?).getLast?) ∧
    (∀ attributes, (∃ result, ofAttributes attributes = .ok result) ↔
      ∀ held ∈ attributes, held.HoldsOptions → ∃ own, ofAttribute held = .ok own) ∧
    (∀ attributes result, ofAttributes attributes = .ok result ↔
      ∃ options, Attribute.Give attributes options ∧
        ofAttributes [.holding (FieldOption.separated options)] = .ok result) ∧
    ∀ attributes options listed, Attribute.Give attributes options →
      FieldOption.Lists listed options →
      ofAttributes attributes = ofAttributes [.holding listed] := by
  have single {listed : List Token} {options : List FieldOption}
      (lists : FieldOption.Lists listed options) :
      ofAttributes [.holding listed] = .ok (ofList options) := by
    have give := Attribute.Give.own (Attribute.holdsOptions_holding listed) rfl lists .nil
    exact ofAttributes_eq_ok_iff.mpr ⟨_, give, by rw [List.append_nil]⟩
  refine ⟨fun listed result => ?_, fun attributes => ?_, fun attributes result => ?_, ?_⟩
  · simp only [read_eq_ok_iff, empty_merge, eq_ofList_iff]
  · rw [← Attribute.exists_give_iff]
    simp only [ofAttributes_eq_ok_iff]
    rw [exists_comm]
    simp only [exists_and_left, exists_eq, and_true]
  · have separated (options : List FieldOption) :
        ofAttributes [.holding (FieldOption.separated options)] = .ok (ofList options) :=
      single (FieldOption.lists_separated options)
    simp only [separated, Except.ok.injEq]
    rw [ofAttributes_eq_ok_iff]
    simp only [eq_comm]
  · intro attributes options listed give lists
    rw [single lists]
    exact ofAttributes_eq_ok_iff.mpr ⟨options, give, rfl⟩

/-- Options that are spread over two attributes, with one of another path between them. -/
def spreadAttributes : List Attribute :=
  [.holding [.word "column", .punctuation '=', .string "A"],
    ⟨"serde", .bracketed [.word "skip"]⟩,
    .holding
      [.word "column", .punctuation '=', .string "B", .punctuation ',', .word "skip",
        .punctuation ',']]

/-- The same options in the order in which they stand. -/
def gatheredOptions : List FieldOption :=
  [.column "A" (by decide), .column "B" (by decide), .skip]

theorem spreadAttributes_asOneList :
    Attribute.Give spreadAttributes gatheredOptions ∧
      FieldOptions.read .empty (FieldOption.separated gatheredOptions) = .ok ⟨some "B", true⟩ ∧
      (∀ held ∈ spreadAttributes, held.HoldsOptions →
        ∃ own, FieldOptions.ofAttribute held = .ok own) ∧
      FieldOptions.ofAttributes spreadAttributes = .ok ⟨some "B", true⟩ ∧
      FieldOptions.ofAttributes spreadAttributes =
        FieldOptions.ofAttributes [.holding (FieldOption.separated gatheredOptions)] := by
  obtain ⟨read, accepted, whole, spread⟩ := FieldOptions.ofAttributes_asOneList
  have foreign : ¬ Lexeme.nameOf "serde" = FieldOptions.attributePath := by decide
  have last : FieldOption.Lists
      [.word "column", .punctuation '=', .string "B", .punctuation ',', .word "skip",
        .punctuation ','] [.column "B" (by decide), .skip] :=
    .inr ⟨List.cons_ne_nil _ _, rfl⟩
  have give : Attribute.Give spreadAttributes gatheredOptions :=
    .own (Attribute.holdsOptions_holding _) rfl
      (FieldOption.lists_separated [.column "A" (by decide)])
      (.foreign foreign (.own (Attribute.holdsOptions_holding _) rfl last .nil))
  have lists := FieldOption.lists_separated gatheredOptions
  have held : FieldOptions.ofAttributes [.holding (FieldOption.separated gatheredOptions)] =
      .ok ⟨some "B", true⟩ := rfl
  have result := (whole spreadAttributes _).mpr ⟨gatheredOptions, give, held⟩
  exact ⟨give, (read _ _).mpr ⟨gatheredOptions, lists, by decide, rfl⟩,
    (accepted _).mp ⟨_, result⟩, result, spread _ _ _ give lists⟩

end SqlBuilder
