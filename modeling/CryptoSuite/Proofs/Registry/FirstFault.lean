import CryptoSuite.Proofs.Registry.Blocks

/-!
# The first fault of a unit

A load puts questions to a plugin : how many implementations there are, and then of each its
family, its name and its operations, and whether the operations are of that family.
`Plugin.questions` lists them in this order, and `Plugin.complaint?` tells of each question, by
itself, what is wrong with the answer. A load stops at the first question with a complaint,
whatever is wrong further on (`load_eq_error_iff`). A plugin that nothing is wrong with is
`Plugin.WellFormed`. Main statement : `load_stops_at_first_fault`.
-/

namespace CryptoSuite

namespace Registry

variable {F σ : Type}

/-! ## Questions -/

/-- A question that a load puts to a plugin. -/
inductive Question where
  /-- Number of implementations, which may not be zero. -/
  | count
  /-- Family of an implementation. -/
  | kind (index : Nat)
  /-- Algorithm name of an implementation. -/
  | algorithmName (index : Nat)
  /-- Operations of an implementation. -/
  | capability (index : Nat)
  /-- Whether these operations are of that family. -/
  | agreement (index : Nat)

namespace Question

/-- The questions about one implementation, in order. -/
def about (index : Nat) : List Question :=
  [kind index, algorithmName index, capability index, agreement index]

/-- The error that reports what is wrong with an answer of a unit. -/
def report : Question → (unitName message : String) → Error
  | count => .enumeration
  | kind _ => .enumeration
  | algorithmName _ => .enumeration
  | capability _ => .function
  | agreement _ => .function

end Question

/-- What is wrong with an answer that is an error. -/
def complaint {α : Type} (wording : String → String) : Except Error α → Option String
  | .ok _ => none
  | .error e => some (wording e.message)

theorem complaint_eq_none_iff {α : Type} {wording : String → String} {x : Except Error α} :
    complaint wording x = none ↔ ∃ a, x = .ok a := by
  cases x <;> simp [complaint]

namespace Plugin

/-- All questions to a plugin, in order. A plugin that does not tell its number of implementations
is not asked about them. -/
def questions (plugin : Plugin F σ) : List Question :=
  match plugin.implementationCount with
  | .ok count => .count :: (List.range count).flatMap Question.about
  | .error _ => [.count]

/-- What is wrong with the answer of a plugin to a question. -/
def complaint? (plugin : Plugin F σ) : Question → Option String
  | .count =>
    match plugin.implementationCount with
    | .ok 0 => some "unit exports no implementations"
    | answer => complaint ("implementation count: " ++ ·) answer
  | .kind index => complaint ("kind: " ++ ·) (plugin.kind index)
  | .algorithmName index => complaint ("name: " ++ ·) (plugin.algorithmName index)
  | .capability index => complaint id (plugin.capability index)
  | .agreement index =>
    match plugin.kind index, plugin.capability index with
    | .ok kind, .ok capability =>
      if capability.kind = kind then none
      else
        let provided := capability.kind.text
        some s!"implementation {index} declares {kind.text} but provides {provided} operations"
    | _, _ => none

/-- The error that a question, by itself, ends the load of a plugin with. -/
def fault? (plugin : Plugin F σ) (unitName : String) (question : Question) : Option Error :=
  (plugin.complaint? question).map (question.report unitName)

/-- There is a complaint about the answer to a question, and none about those before it. -/
def FirstFault (plugin : Plugin F σ) (question : Question) (message : String) : Prop :=
  ∃ before after, plugin.questions = before ++ question :: after ∧
    plugin.complaint? question = some message ∧
    ∀ earlier ∈ before, plugin.complaint? earlier = none

/-- A plugin with `count` implementations, each of which it tells all of, and rightly. -/
structure WellFormed (plugin : Plugin F σ) (count : Nat) : Prop where
  count_eq : plugin.implementationCount = .ok count
  count_pos : 0 < count
  implementation : ∀ index < count, ∃ kind algorithm capability, plugin.kind index = .ok kind ∧
    plugin.algorithmName index = .ok algorithm ∧ plugin.capability index = .ok capability ∧
      capability.kind = kind

variable {plugin : Plugin F σ}

theorem findSome?_fault?_eq_some_iff {unitName : String} {e : Error} :
    plugin.questions.findSome? (plugin.fault? unitName) = some e ↔
      ∃ question message, plugin.FirstFault question message ∧
        e = question.report unitName message := by
  simp only [List.findSome?_eq_some_iff, fault?, Option.map_eq_some_iff, Option.map_eq_none_iff]
  constructor
  · rintro ⟨before, question, after, hsplit, ⟨message, hmessage, rfl⟩, hbefore⟩
    exact ⟨question, message, ⟨before, after, hsplit, hmessage, hbefore⟩, rfl⟩
  · rintro ⟨question, message, ⟨before, after, hsplit, hmessage, hbefore⟩, rfl⟩
    exact ⟨before, question, after, hsplit, ⟨message, hmessage, rfl⟩, hbefore⟩

theorem findSome?_fault?_eq_none_iff {unitName : String} :
    plugin.questions.findSome? (plugin.fault? unitName) = none ↔
      ∀ question ∈ plugin.questions, plugin.complaint? question = none := by
  simp only [List.findSome?_eq_none_iff, fault?, Option.map_eq_none_iff]

theorem complaint?_count_eq_none_iff : plugin.complaint? .count = none ↔
    ∃ count, plugin.implementationCount = .ok count ∧ 0 < count := by
  rw [complaint?]
  match plugin.implementationCount with
  | .ok 0 => simp
  | .ok (count + 1) => simp [complaint]
  | .error e => simp [complaint]

theorem complaint?_about_eq_none_iff {index : Nat} :
    (∀ question ∈ Question.about index, plugin.complaint? question = none) ↔
      ∃ kind algorithm capability, plugin.kind index = .ok kind ∧
        plugin.algorithmName index = .ok algorithm ∧ plugin.capability index = .ok capability ∧
          capability.kind = kind := by
  simp only [Question.about, List.forall_mem_cons, complaint?, complaint_eq_none_iff]
  constructor
  · rintro ⟨⟨kind, hkind⟩, ⟨algorithm, halgorithm⟩, ⟨capability, hcapability⟩, hagree, -⟩
    simp only [hkind, hcapability, ite_eq_left_iff, reduceCtorEq, imp_false,
      Decidable.not_not] at hagree
    exact ⟨kind, algorithm, capability, hkind, halgorithm, hcapability, hagree⟩
  · rintro ⟨kind, algorithm, capability, hkind, halgorithm, hcapability, hagree⟩
    refine ⟨⟨kind, hkind⟩, ⟨algorithm, halgorithm⟩, ⟨capability, hcapability⟩, ?_, nofun⟩
    simp only [hkind, hcapability, if_pos hagree]

theorem mem_questions_iff {count : Nat} (hcount : plugin.implementationCount = .ok count)
    {question : Question} : question ∈ plugin.questions ↔
      question = .count ∨ ∃ index < count, question ∈ Question.about index := by
  simp [questions, hcount]

/-- Nothing is wrong with a plugin exactly if it is well-formed. -/
theorem exists_wellFormed_iff : (∃ count, plugin.WellFormed count) ↔
    ∀ question ∈ plugin.questions, plugin.complaint? question = none := by
  constructor
  · rintro ⟨count, hcount, hpos, himplementation⟩ question hquestion
    rcases (mem_questions_iff hcount).mp hquestion with rfl | ⟨index, hindex, habout⟩
    · exact complaint?_count_eq_none_iff.mpr ⟨count, hcount, hpos⟩
    · exact complaint?_about_eq_none_iff.mpr (himplementation index hindex) question habout
  · intro h
    have hasked : Question.count ∈ plugin.questions := by
      unfold questions
      split <;> simp
    obtain ⟨count, hcount, hpos⟩ := complaint?_count_eq_none_iff.mp (h .count hasked)
    refine ⟨count, hcount, hpos, fun index hindex => ?_⟩
    refine complaint?_about_eq_none_iff.mp fun question habout => h question ?_
    exact (mem_questions_iff hcount).mpr (.inr ⟨index, hindex, habout⟩)

end Plugin

/-! ## What a load answers -/

section Answers

variable (plugin : Plugin F σ) (unitIndex : Nat) (unitName : String)

/-- The questions about one implementation are put in order, up to the first fault. -/
theorem askImplementation_cases (count index : Nat) :
    (∃ entry, askImplementation plugin unitIndex unitName count index = .ok entry ∧
      (Question.about index).findSome? (plugin.fault? unitName) = none) ∨
    ∃ e, askImplementation plugin unitIndex unitName count index = .error e ∧
      (Question.about index).findSome? (plugin.fault? unitName) = some e := by
  unfold askImplementation
  simp only [Question.about, List.findSome?_cons, List.findSome?_nil, Plugin.fault?,
    Plugin.complaint?]
  cases plugin.kind index with
  | error e => exact .inr ⟨_, rfl, rfl⟩
  | ok kind =>
    cases plugin.algorithmName index with
    | error e => exact .inr ⟨_, rfl, rfl⟩
    | ok algorithm =>
      cases plugin.capability index with
      | error e => exact .inr ⟨_, rfl, rfl⟩
      | ok capability =>
        by_cases hagree : capability.kind = kind
        · exact .inl ⟨_, if_neg (not_not_intro hagree), by simp [complaint, hagree]⟩
        · refine .inr ⟨_, if_pos hagree, ?_⟩
          simp only [complaint, if_neg hagree]
          rfl

/-- The result of a load that stops at a fault, if there is one. -/
def verdict : Option Error → Except Error Unit
  | none => .ok ()
  | some e => .error e

theorem fst_registerFrom (count remaining index : Nat) (table : EntryTable F σ) :
    (registerFrom plugin unitIndex unitName count remaining index table).1 =
      verdict (((List.range' index remaining).flatMap Question.about).findSome?
        (plugin.fault? unitName)) := by
  induction remaining generalizing index table with
  | zero => rfl
  | succ remaining ih =>
    rw [registerFrom, List.range'_succ, List.flatMap_cons, List.findSome?_append]
    rcases askImplementation_cases plugin unitIndex unitName count index with
      ⟨entry, hentry, hnone⟩ | ⟨e, he, hsome⟩
    · rw [hentry, hnone, Option.none_or]
      exact ih (index + 1) (table.push entry)
    · rw [he, hsome, Option.some_or]
      rfl

theorem fst_registerUnit (table : EntryTable F σ) :
    (registerUnit plugin unitIndex unitName table).1 =
      verdict (plugin.questions.findSome? (plugin.fault? unitName)) := by
  unfold registerUnit Plugin.questions
  match hcount : plugin.implementationCount with
  | .error e => simp [Plugin.fault?, Plugin.complaint?, hcount, complaint]; rfl
  | .ok 0 => simp [Plugin.fault?, Plugin.complaint?, hcount]; rfl
  | .ok (count + 1) =>
    have hnone : plugin.fault? unitName .count = none := by
      simp [Plugin.fault?, Plugin.complaint?, hcount, complaint]
    rw [List.findSome?_cons, hnone, List.range_eq_range']
    exact fst_registerFrom plugin unitIndex unitName (count + 1) (count + 1) 0 table

end Answers

/-! ## The whole load -/

variable {registry : Registry F σ} {name : String} {searchPath : Option String}
  {plugin : Plugin F σ}

theorem load_eq_error_iff (h : entryPoint registry.catalog name searchPath = .ok plugin)
    {e : Error} : (registry.load name searchPath).1 = .error e ↔
      plugin.questions.findSome? (plugin.fault? name) = some e := by
  have hverdict := fst_registerUnit plugin registry.units.length name registry.table
  unfold load
  rw [h]
  dsimp only
  generalize registerUnit plugin registry.units.length name registry.table = answer at hverdict ⊢
  obtain ⟨result, table⟩ := answer
  obtain rfl : result = _ := hverdict
  cases plugin.questions.findSome? (plugin.fault? name) <;> simp [verdict]

theorem exists_load_iff (h : entryPoint registry.catalog name searchPath = .ok plugin) :
    (∃ id, (registry.load name searchPath).1 = .ok id) ↔ ∃ count, plugin.WellFormed count := by
  have hnone : plugin.questions.findSome? (plugin.fault? name) = none ↔
      ∀ question ∈ plugin.questions, plugin.complaint? question = none :=
    Plugin.findSome?_fault?_eq_none_iff
  rw [Plugin.exists_wellFormed_iff, ← hnone, Option.eq_none_iff_forall_ne_some]
  simp only [ne_eq, ← load_eq_error_iff h]
  cases (registry.load name searchPath).1 <;> simp

/-- A load whose unit has an entry point succeeds exactly for a well-formed plugin. It then answers
the id of the next entry, and adds as many as there are implementations. Otherwise it answers the
error of the first question with a complaint, in the order of the questions, which names the unit
as it was asked for. -/
theorem load_stops_at_first_fault
    (h : entryPoint registry.catalog name searchPath = .ok plugin) :
    ((∃ id, (registry.load name searchPath).1 = .ok id) ↔ ∃ count, plugin.WellFormed count) ∧
    (∀ count, plugin.WellFormed count →
      (registry.load name searchPath).1 = .ok ⟨registry.table.generation, registry.table.size⟩ ∧
      (registry.load name searchPath).2.table.size = registry.table.size + count) ∧
    ∀ e, (registry.load name searchPath).1 = .error e ↔
      ∃ question message, plugin.FirstFault question message ∧
        e = question.report name message := by
  refine ⟨exists_load_iff h, fun count hcount => ?_, fun e => ?_⟩
  · rcases registry.load_cases name searchPath with ⟨e, hload⟩ | ⟨plugin', block, h', hblock, hload⟩
    · obtain ⟨id, hid⟩ := (exists_load_iff h).mpr ⟨count, hcount⟩
      cases (congrArg Prod.fst hload).symm.trans hid
    · obtain rfl : plugin = plugin' := Except.ok.inj (h.symm.trans h')
      obtain rfl : block.length = count := Except.ok.inj (hblock.count.symm.trans hcount.count_eq)
      rw [hload]
      exact ⟨rfl, List.length_append⟩
  · rw [load_eq_error_iff h, Plugin.findSome?_fault?_eq_some_iff]

/-- SHA-224, and a second implementation that tells neither a name nor operations. -/
def halfBuilt : Plugin Empty Sha2.State :=
  { halfNamed with
    capability := fun index =>
      if index = 0 then .ok (.hash Sha2.sha224) else .error missingUnit }

/-- After the shipped unit of HMAC, a unit that fails twice at its second implementation. The
missing name is reported. -/
theorem load_stops_at_first_fault_half_built :
    let catalog : Catalog Empty Sha2.State := fun _ => some ⟨some halfBuilt⟩
    entryPoint catalog "half" none = .ok halfBuilt ∧
      halfBuilt.complaint? (.capability 1) = some "registry entry: unit is not loaded" ∧
      ((new catalog).load "half" none).1 =
        .error (.enumeration "half" "name: self-test is not implemented") := by
  intro catalog
  have hentry : entryPoint catalog "half" none = .ok halfBuilt := rfl
  have hfirst : halfBuilt.FirstFault (.algorithmName 1) "name: self-test is not implemented" :=
    ⟨[.count, .kind 0, .algorithmName 0, .capability 0, .agreement 0, .kind 1],
      [.capability 1, .agreement 1], rfl, rfl, by decide⟩
  refine ⟨hentry, rfl, ?_⟩
  exact ((load_stops_at_first_fault hentry).2.2 _).mpr ⟨_, _, hfirst, rfl⟩

end Registry

end CryptoSuite
