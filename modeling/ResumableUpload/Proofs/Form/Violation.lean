import ResumableUpload.Proofs.Form.Admission

/-! Which of the violated rules the check of a form reports. -/

namespace ResumableUpload.UploadForm

variable {form : UploadForm} {rule : Rule} {entries : List ErrorEntry} {p q : Rule → Prop}

/-- A form is not as a rule wants it. A missing value violates only the rule that it is required. -/
def Violates (form : UploadForm) : Rule → Prop
  | .required field => form.missing field = true
  | .uploadPath => ∃ path, form.path = some path ∧ ¬ UploadPath.Allowed path
  | .mediaType => ∃ s, form.contentType = some s ∧ s.toList ∉ MediaTypeName.pattern
  | .sizeRange => ∃ n, form.totalSize = some n ∧ ¬ 1 ≤ n.toNat
  | .chunkNumberRange => ∃ n, form.chunkNumber = some n ∧ ¬ (1 ≤ n.toNat ∧ n.toNat ≤ maxChunks)
  | .totalChunksRange => ∃ n, form.totalChunks = some n ∧ ¬ (1 ≤ n.toNat ∧ n.toNat ≤ maxChunks)
  | .collectionOrBundle => (∃ s, form.collectionId = some s) ∧ ∃ s, form.bundleId = some s
  | .numberWithinTotal => ∃ number total, form.chunkNumber = some number ∧ form.totalChunks = some total ∧
      ¬ number.toNat ≤ total.toNat

lemma any_iff {α : Type} {o : Option α} {test : α → Bool} {P : α → Prop} (h : ∀ a, test a = true ↔ ¬ P a) :
    o.any test = true ↔ ∃ a, o = some a ∧ ¬ P a := by
  rw [Option.any_eq_true]
  exact exists_congr fun a => and_congr_right fun _ => h a

lemma not_test_iff {α : Type} {test : α → Bool} {P : α → Prop} (h : ∀ a, test a = true ↔ P a) (a : α) :
    (!test a) = true ↔ ¬ P a := by
  rw [Bool.not_eq_true', Bool.eq_false_iff, Ne, h]

lemma breaks_iff : form.breaks rule = true ↔ form.Violates rule := by
  cases rule with
  | required field => exact Iff.rfl
  | uploadPath => exact any_iff (not_test_iff fun _ => UploadPath.valid_iff)
  | mediaType => exact any_iff (not_test_iff fun _ => MediaTypeName.valid_iff_mem_pattern)
  | sizeRange =>
    apply any_iff
    intro n
    rw [decide_eq_true_eq, UInt64.lt_iff_toNat_lt, Nat.not_le]
    rfl
  | chunkNumberRange => exact any_iff (not_test_iff fun _ => isChunkCount_iff)
  | totalChunksRange => exact any_iff (not_test_iff fun _ => isChunkCount_iff)
  | collectionOrBundle =>
    rw [breaks, Bool.and_eq_true, Option.isSome_iff_exists, Option.isSome_iff_exists]
    rfl
  | numberWithinTotal =>
    simp only [breaks, Option.any_eq_true, decide_eq_true_eq, UInt32.lt_iff_toNat_lt]
    constructor
    · rintro ⟨number, hn, total, ht, hlt⟩
      exact ⟨number, total, hn, ht, Nat.not_le.mpr hlt⟩
    · rintro ⟨number, total, hn, ht, hlt⟩
      exact ⟨number, hn, total, ht, Nat.not_le.mp hlt⟩

lemma Rule.mem_all (rule : Rule) : rule ∈ fieldRules ++ formRules := by
  cases rule with
  | required field => cases field <;> decide
  | _ => decide

lemma Rule.description_injective : Function.Injective Rule.description := by
  have hnodup : ((fieldRules ++ formRules).map Rule.description).Nodup := by decide +kernel
  intro a b h
  exact List.inj_on_of_nodup_map hnodup a.mem_all b.mem_all h

/-- The rules on one field are all looked at. Those on two fields are looked at in turn, and only where no rule on one
field is violated. -/
structure Reports (form : UploadForm) (rule : Rule) : Prop where
  violated : form.Violates rule
  fields : rule ∈ formRules → ∀ other ∈ fieldRules, ¬ form.Violates other
  first : rule = .numberWithinTotal → ¬ form.Violates .collectionOrBundle

lemma filter_eq_nil : fieldRules.filter form.breaks = [] ↔ ∀ other ∈ fieldRules, ¬ form.Violates other := by
  simp [List.filter_eq_nil_iff, ← breaks_iff]

lemma find?_eq_some : formRules.find? form.breaks = some rule ↔
    rule ∈ formRules ∧ form.Violates rule ∧ (rule = .numberWithinTotal → ¬ form.Violates .collectionOrBundle) := by
  have hmem : rule ∈ formRules ↔ rule = .collectionOrBundle ∨ rule = .numberWithinTotal := by simp [formRules]
  rw [hmem, formRules]
  by_cases hc : form.Violates .collectionOrBundle
  · rw [List.find?_cons_of_pos (breaks_iff.mpr hc)]
    constructor
    · rintro ⟨⟩
      exact ⟨.inl rfl, hc, nofun⟩
    · rintro ⟨rfl | rfl, -, hfirst⟩
      · rfl
      · exact absurd hc (hfirst rfl)
  · rw [List.find?_cons_of_neg (mt breaks_iff.mp hc), List.find?_singleton, Option.ite_none_right_eq_some, breaks_iff]
    constructor
    · rintro ⟨hn, ⟨⟩⟩
      exact ⟨.inr rfl, hn, fun _ => hc⟩
    · rintro ⟨rfl | rfl, hviolated, -⟩
      · exact absurd hviolated hc
      · exact ⟨hviolated, rfl⟩

lemma not_mem_formRules (h : rule ∈ fieldRules) : rule ∉ formRules := by
  have hdisjoint : ∀ r ∈ fieldRules, r ∉ formRules := by decide
  exact hdisjoint rule h

lemma mem_broken : rule ∈ form.broken ↔ form.Reports rule := by
  have hrule := List.mem_append.mp rule.mem_all
  rw [broken]
  split
  · next hnil =>
    have hnone := filter_eq_nil.mp hnil
    rw [Option.mem_toList, find?_eq_some]
    constructor
    · rintro ⟨-, hviolated, hfirst⟩
      exact ⟨hviolated, fun _ => hnone, hfirst⟩
    · intro h
      have hform := hrule.resolve_left fun hfield => hnone rule hfield h.violated
      exact ⟨hform, h.violated, h.first⟩
  · next hsome =>
    rw [List.mem_filter, breaks_iff]
    constructor
    · rintro ⟨hfield, hviolated⟩
      refine ⟨hviolated, fun hform => absurd hform (not_mem_formRules hfield), ?_⟩
      rintro rfl
      exact absurd hfield (by decide)
    · intro h
      refine ⟨hrule.resolve_right fun hform => hsome ?_, h.violated⟩
      exact filter_eq_nil.mpr (h.fields hform)

lemma nodup_broken : form.broken.Nodup := by
  rw [broken]
  split
  · cases formRules.find? form.breaks <;> simp
  · have hnodup : fieldRules.Nodup := by decide
    exact hnodup.filter _

def Enumerates (entries : List ErrorEntry) (p : Rule → Prop) : Prop :=
  ∃ rules : List Rule, entries = rules.map Rule.entry ∧ entries.Pairwise (·.description < ·.description) ∧
    ∀ rule, rule ∈ rules ↔ p rule

lemma Rule.entry_injective : Function.Injective Rule.entry := by
  intro a b h
  exact description_injective (congrArg ErrorEntry.description h)

lemma Enumerates.mem_iff (h : Enumerates entries p) : rule.entry ∈ entries ↔ p rule := by
  obtain ⟨rules, rfl, -, hrules⟩ := h
  rw [List.mem_map_of_injective Rule.entry_injective, hrules]

lemma enumerates_violations : Enumerates form.violations form.Reports := by
  let earlier (a b : Rule) : Bool := a.description ≤ b.description
  have hviolations : form.violations = (form.broken.mergeSort earlier).map Rule.entry := by
    symm
    apply List.map_mergeSort
    exact fun _ _ _ _ => rfl
  have hperm : (form.broken.mergeSort earlier).Perm form.broken := List.mergeSort_perm _ _
  have hsorted : (form.broken.mergeSort earlier).Pairwise (earlier · ·) := by
    apply List.pairwise_mergeSort
    · intro a b c hab hbc
      exact decide_eq_true (String.le_trans (of_decide_eq_true hab) (of_decide_eq_true hbc))
    · intro a b
      simpa [earlier] using String.le_total a.description b.description
  have hdistinct : (form.broken.mergeSort earlier).Nodup := hperm.nodup_iff.mpr nodup_broken
  refine ⟨_, hviolations, ?_, fun rule => hperm.mem_iff.trans mem_broken⟩
  rw [hviolations, List.pairwise_map]
  refine hsorted.imp₂ (fun a b hle hne => String.not_le.mp fun hge => hne ?_) hdistinct
  exact Rule.description_injective (String.le_antisymm (of_decide_eq_true hle) hge)

lemma check_ok_iff_violates : form.check = .ok () ↔ ∀ rule, ¬ form.Violates rule := by
  rw [check_eq_ok]
  constructor
  · intro h rule hrule
    exact absurd (breaks_iff.mpr hrule) (Bool.eq_false_iff.mp (h rule rule.mem_all))
  · intro h rule _
    exact Bool.eq_false_iff.mpr fun hbreaks => h rule (breaks_iff.mp hbreaks)

lemma check_eq_error {e : RequestError} (h : form.check = .error e) : e = .validation form.violations := by
  rw [check] at h
  split at h
  · cases h
  · cases h
    rfl

def Separate (form : UploadForm) : Prop :=
  ∀ rule ∈ formRules, form.Violates rule → ∀ other, form.Violates other → other = rule

lemma Separate.reports (h : form.Separate) (hrule : form.Violates rule) : form.Reports rule := by
  refine ⟨hrule, fun hform other hfield hother => ?_, ?_⟩
  · obtain rfl := h rule hform hrule other hother
    exact not_mem_formRules hfield hform
  · rintro rfl hother
    cases h .numberWithinTotal (by decide) hrule .collectionOrBundle hother

lemma separate_of_reports (h : ∀ rule, form.Violates rule → form.Reports rule) : form.Separate := by
  intro rule hform hrule other hother
  have hnofield := (h rule hrule).fields hform
  have hotherform := (List.mem_append.mp other.mem_all).resolve_left fun hfield => hnofield other hfield hother
  simp only [formRules, List.mem_cons, List.not_mem_nil, or_false] at hform hotherform
  rcases hform with rfl | rfl <;> rcases hotherform with rfl | rfl
  · rfl
  · exact absurd hrule ((h _ hother).first rfl)
  · exact absurd hother ((h _ hrule).first rfl)
  · rfl

/-- A form passes where it violates no rule. Otherwise each violated rule on one field has one entry, in the order of
the descriptions; all violated rules have theirs where no rule on two fields fails together with another rule. -/
theorem check_reports (form : UploadForm) : (form.check = .ok () ↔ ∀ rule, ¬ form.Violates rule) ∧
    ∀ e, form.check = .error e → ∃ entries, e = .validation entries ∧ Enumerates entries form.Reports ∧
      (Enumerates entries form.Violates ↔ form.Separate) := by
  refine ⟨check_ok_iff_violates, fun e he => ?_⟩
  obtain rfl := check_eq_error he
  have hreports : Enumerates form.violations form.Reports := enumerates_violations
  refine ⟨_, rfl, hreports, fun h => ?_, fun h => ?_⟩
  · apply separate_of_reports
    intro rule hrule
    exact hreports.mem_iff.mp (h.mem_iff.mpr hrule)
  · have hsame : form.Violates = form.Reports := by
      funext rule
      exact propext ⟨h.reports, Reports.violated⟩
    rwa [hsame]

def astray : UploadForm :=
  ⟨some "a/b.csv", some true, some "c", some "b", none, some 5, some "text/csv", some "l", some "u", none, some 3, some 2,
    none, none, none⟩

/-- Of two violated rules on two fields only one has an entry. -/
theorem astray_unreported : ¬ ∀ (form : UploadForm) (entries : List ErrorEntry),
    form.check = .error (.validation entries) → Enumerates entries form.Violates := by
  intro h
  have hexclusive : astray.Violates .collectionOrBundle := ⟨⟨_, rfl⟩, _, rfl⟩
  have hwithin : astray.Violates .numberWithinTotal := ⟨_, _, rfl, rfl, by decide⟩
  have hreports : Enumerates astray.violations astray.Reports := enumerates_violations
  cases he : astray.check with
  | ok => exact check_ok_iff_violates.mp he _ hwithin
  | error e =>
    obtain rfl := check_eq_error he
    have hreported := hreports.mem_iff.mp ((h _ _ he).mem_iff.mpr hwithin)
    exact hreported.first rfl hexclusive

end ResumableUpload.UploadForm
