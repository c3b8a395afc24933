import ResumableUpload.Proofs.Store.Holding
import Mathlib.Data.Finset.Sort

/-! What an object store in memory holds is what its history says, whatever was sent to it in whatever order. -/

namespace ResumableUpload

structure Submission where
  path : String
  chunk : Chunk
  payload : Bytes
  key : Option EncryptionKey

namespace Submission

def body? (c : Submission) : Option Bytes :=
  if c.chunk.SizeAdmissible c.payload.size then (c.chunk.body c.payload c.key).toOption else none

def latest? (calls : List Submission) (n : Nat) : Option Bytes :=
  calls.findSome? fun c => if c.chunk.current = n then c.body? else none

def numbers (calls : List Submission) : Finset Nat :=
  ((calls.filter fun c => c.body?.isSome).map (·.chunk.current)).toFinset

def joined (calls : List Submission) : Bytes :=
  Bytes.concat (((numbers calls).sort (· ≤ ·)).filterMap (latest? calls))

structure Answered extends Submission where
  answer : Except StorageError PartReceipt

def Answered.completes (y : Answered) (path : String) : Bool := y.path = path && y.answer.toOption.any (·.complete)

/-- The calls for a path since its object was completed last, or all of them if it never was. -/
def since (path : String) (history : List Answered) : List Submission :=
  ((history.takeWhile fun y => !y.completes path).filter (·.path = path)).map (·.toSubmission)

/-- The call by which the object of its path was completed last, with its answer and the calls before it. -/
inductive LastCompletion : List Answered → Answered → PartReceipt → List Answered → Prop
  | here {y : Answered} {receipt : PartReceipt} {before : List Answered} :
      y.answer = .ok receipt → receipt.complete = true → LastCompletion (y :: before) y receipt before
  | later {x y : Answered} {receipt : PartReceipt} {history before : List Answered} :
      x.completes y.path = false → LastCompletion history y receipt before → LastCompletion (x :: history) y receipt before

variable {c : Submission} {calls : List Submission} {n : Nat} {body : Bytes} {path : String} {y : Answered}
  {history : List Answered}

lemma body?_eq_some : c.body? = some body ↔
    c.chunk.SizeAdmissible c.payload.size ∧ c.chunk.body c.payload c.key = .ok body := by
  rw [body?, Option.ite_none_right_eq_some]
  cases c.chunk.body c.payload c.key <;> simp [Except.toOption]

lemma body?_eq_none : c.body? = none ↔
    ¬ c.chunk.SizeAdmissible c.payload.size ∨ ∃ e, c.chunk.body c.payload c.key = .error e := by
  rw [body?, ite_eq_right_iff, imp_iff_not_or]
  cases c.chunk.body c.payload c.key <;> simp [Except.toOption]

lemma Answered.completes_iff : y.completes path = true ↔
    y.path = path ∧ ∃ receipt, y.answer = .ok receipt ∧ receipt.complete = true := by
  cases h : y.answer <;> simp [completes, h, Except.toOption]

lemma latest?_cons : latest? (c :: calls) n = ((if c.chunk.current = n then c.body? else none).or (latest? calls n)) := by
  rw [latest?, List.findSome?_cons]
  cases (if c.chunk.current = n then c.body? else none) <;> rfl

lemma latest?_cons_of_none (h : c.body? = none) : latest? (c :: calls) n = latest? calls n := by
  rw [latest?_cons, h, ite_self, Option.none_or]

lemma latest?_cons_of_some (h : c.body? = some body) :
    latest? (c :: calls) n = if n = c.chunk.current then some body else latest? calls n := by
  rw [latest?_cons, h]
  by_cases hn : n = c.chunk.current
  · rw [if_pos hn.symm, if_pos hn, Option.some_or]
  · rw [if_neg (Ne.symm hn), if_neg hn, Option.none_or]

lemma mem_numbers_iff : n ∈ numbers calls ↔ (latest? calls n).isSome = true := by
  simp only [numbers, List.mem_toFinset, List.mem_map, List.mem_filter, latest?, List.findSome?_isSome_iff]
  constructor
  · rintro ⟨c, ⟨hc, hbody⟩, rfl⟩
    exact ⟨c, hc, by rwa [if_pos rfl]⟩
  · rintro ⟨c, hc, hbody⟩
    split at hbody
    · next hn => exact ⟨c, ⟨hc, hbody⟩, hn⟩
    · cases hbody

lemma since_cons_of_completes (h : y.completes path = true) : since path (y :: history) = [] := by
  rw [since, List.takeWhile_cons, h]
  rfl

lemma since_cons_of_not_completes (h : y.completes path = false) : since path (y :: history) =
    if y.path = path then y.toSubmission :: since path history else since path history := by
  rw [since, List.takeWhile_cons, h]
  by_cases hp : y.path = path <;> simp [since, hp]

end Submission

namespace Parts

open Submission (latest? joined)

def Tell (p : Parts) (calls : List Submission) : Prop := ∀ n, p.get? n = latest? calls n

variable {p : Parts} {calls : List Submission} {c : Submission} {body : Bytes}

lemma tell_empty : Tell ∅ [] := fun _ => rfl

lemma Tell.insert (h : p.Tell calls) (hbody : c.body? = some body) : (p.insert c.chunk.current body).Tell (c :: calls) := by
  intro n
  rw [get?_insert, Submission.latest?_cons_of_some hbody, h n]

lemma Tell.toFinset_numbers (h : p.Tell calls) : p.numbers.toFinset = Submission.numbers calls := by
  ext n
  rw [List.mem_toFinset, mem_numbers_iff, Submission.mem_numbers_iff, h n]

lemma Tell.count_eq (h : p.Tell calls) : p.count = (Submission.numbers calls).card := by
  rw [← h.toFinset_numbers, List.toFinset_card_of_nodup p.numbers_ascending.nodup, length_numbers]

lemma Tell.assembled_eq (h : p.Tell calls) : p.assembled = joined calls := by
  have hsort : p.numbers.toFinset.sort (· ≤ ·) = p.numbers :=
    (List.toFinset_sort _ p.numbers_ascending.nodup).mpr (p.numbers_ascending.imp Nat.le_of_lt)
  have hget : p.get? = latest? calls := funext h
  rw [Parts.assembled_eq, bodies_eq, joined, ← h.toFinset_numbers, hsort, hget]

end Parts

namespace ObjectStore

open Submission (Answered LastCompletion numbers joined since)

variable {s : ObjectStore} {c : Submission} {body : Bytes} {history : List Answered}

def remember : List Submission → ObjectStore × List Answered
  | [] => (.empty, [])
  | c :: earlier =>
    let (s, history) := remember earlier
    let (answer, s) := s.put c.path c.chunk c.payload c.key
    (s, ⟨c, answer⟩ :: history)

structure Recalls (s : ObjectStore) (history : List Answered) : Prop where
  parts : ∀ path, (s.partsOf path).Tell (since path history)
  nonempty : ∀ path parts, s.pending.get? path = some parts → parts.count ≠ 0
  object : ∀ {y receipt before}, LastCompletion history y receipt before →
    s.objects.get? y.path = some ⟨joined (y.toSubmission :: since y.path before), receipt.etag⟩
  vacant : ∀ path, (∀ y ∈ history, y.completes path = false) → s.objects.get? path = none

structure Treats (s : ObjectStore) (history : List Answered) (c : Submission) : Prop where
  refused : c.body? = none → ∃ e, s.put c.path c.chunk c.payload c.key = (.error e, s)
  accepted : c.body? ≠ none → ∃ receipt, (s.put c.path c.chunk c.payload c.key).1 = .ok receipt ∧
    (receipt.complete = true ↔ c.chunk.total ≤ (numbers (c :: since c.path history)).card)

lemma put_of_none (h : c.body? = none) (s : ObjectStore) : ∃ e, s.put c.path c.chunk c.payload c.key = (.error e, s) := by
  obtain ⟨e, hput⟩ := put_refused (Submission.body?_eq_none.mp h) c.path
  exact ⟨e, hput s⟩

lemma put_of_some (h : c.body? = some body) (s : ObjectStore) : s.put c.path c.chunk c.payload c.key =
    (.ok (s.place c.path c.chunk body).1, (s.place c.path c.chunk body).2) := by
  obtain ⟨hs, hb⟩ := Submission.body?_eq_some.mp h
  exact put_of_body s c.path hs hb

lemma Recalls.of_continuing {s' : ObjectStore} {y : Answered} (h : s.Recalls history)
    (hy : ∀ path, y.completes path = false) (hobjects : s'.objects = s.objects)
    (hparts : ∀ path, (s'.partsOf path).Tell (since path (y :: history)))
    (hnonempty : ∀ path parts, s'.pending.get? path = some parts → parts.count ≠ 0) : s'.Recalls (y :: history) where
  parts := hparts
  nonempty := hnonempty
  object := by
    intro z receipt before hlast
    rw [hobjects]
    cases hlast with
    | here hanswer hcomplete =>
      have hcompletes : y.completes y.path = true := Answered.completes_iff.mpr ⟨rfl, receipt, hanswer, hcomplete⟩
      rw [hy] at hcompletes
      cases hcompletes
    | later _ hlast => exact h.object hlast
  vacant := by
    intro path hnone
    rw [hobjects]
    exact h.vacant path fun z hz => hnone z (List.mem_cons_of_mem _ hz)

lemma Recalls.refuse (h : s.Recalls history) (hc : c.body? = none) (e : StorageError) :
    s.Recalls (⟨c, .error e⟩ :: history) := by
  have hcompletes : ∀ path, Answered.completes ⟨c, .error e⟩ path = false := fun path => Bool.and_false _
  refine h.of_continuing hcompletes rfl (fun path n => ?_) h.nonempty
  rw [h.parts path n, Submission.since_cons_of_not_completes (hcompletes path)]
  split
  · exact (Submission.latest?_cons_of_none hc).symm
  · rfl

lemma Recalls.tell_insert (h : s.Recalls history) (hc : c.body? = some body) :
    ((s.partsOf c.path).insert c.chunk.current body).Tell (c :: since c.path history) := (h.parts c.path).insert hc

lemma Recalls.continue (h : s.Recalls history) (hc : c.body? = some body) (tag : String) :
    ObjectStore.Recalls { s with pending := s.pending.insert c.path ((s.partsOf c.path).insert c.chunk.current body) }
      (⟨c, .ok ⟨false, tag⟩⟩ :: history) := by
  have hcompletes : ∀ path, Answered.completes ⟨c, .ok ⟨false, tag⟩⟩ path = false := fun path => Bool.and_false _
  refine h.of_continuing hcompletes rfl (fun path => ?_) fun path parts hparts => ?_
  · rw [partsOf_insert, Submission.since_cons_of_not_completes (hcompletes path)]
    by_cases hp : path = c.path
    · subst hp
      rw [if_pos rfl, if_pos rfl]
      exact h.tell_insert hc
    · rw [if_neg hp, if_neg (Ne.symm hp)]
      exact h.parts path
  · rw [Table.get?_insert] at hparts
    split at hparts
    · obtain rfl := Option.some.inj hparts
      rw [← Parts.length_numbers]
      exact (List.length_pos_of_mem (Parts.mem_numbers_insert.mpr (.inl rfl))).ne'
    · exact h.nonempty path parts hparts

lemma Recalls.complete (h : s.Recalls history) (hc : c.body? = some body) (etag : String) :
    ObjectStore.Recalls ⟨s.pending.erase c.path,
        s.objects.insert c.path ⟨((s.partsOf c.path).insert c.chunk.current body).assembled, etag⟩⟩
      (⟨c, .ok ⟨true, etag⟩⟩ :: history) := by
  have hcompletes : ∀ path, Answered.completes ⟨c, .ok ⟨true, etag⟩⟩ path = decide (c.path = path) :=
    fun path => Bool.and_true _
  have hother : ∀ path, Answered.completes ⟨c, .ok ⟨true, etag⟩⟩ path = false → path ≠ c.path := by
    rintro _ hpath rfl
    rw [hcompletes] at hpath
    exact of_decide_eq_false hpath rfl
  refine ⟨fun path => ?_, fun path parts hparts => ?_, fun hlast => ?_, fun path hnone => ?_⟩
  · rw [partsOf_erase]
    by_cases hp : path = c.path
    · subst hp
      rw [if_pos rfl, Submission.since_cons_of_completes ((hcompletes _).trans (decide_eq_true rfl))]
      exact Parts.tell_empty
    · have hp' : c.path ≠ path := Ne.symm hp
      rw [if_neg hp, Submission.since_cons_of_not_completes ((hcompletes _).trans (decide_eq_false hp')), if_neg hp']
      exact h.parts path
  · rw [Table.get?_erase] at hparts
    split at hparts
    · cases hparts
    · exact h.nonempty path parts hparts
  · cases hlast with
    | here hanswer _ =>
      obtain rfl := Except.ok.inj hanswer
      rw [Table.get?_insert, if_pos rfl, (h.tell_insert hc).assembled_eq]
    | later hother' hlast =>
      rw [Table.get?_insert, if_neg (hother _ hother')]
      exact h.object hlast
  · rw [Table.get?_insert, if_neg (hother _ (hnone _ List.mem_cons_self))]
    exact h.vacant path fun y hy => hnone y (List.mem_cons_of_mem _ hy)

lemma Recalls.put (h : s.Recalls history) (c : Submission) :
    (s.put c.path c.chunk c.payload c.key).2.Recalls (⟨c, (s.put c.path c.chunk c.payload c.key).1⟩ :: history) := by
  cases hc : c.body? with
  | none =>
    obtain ⟨e, hput⟩ := put_of_none hc s
    rw [hput]
    exact h.refuse hc e
  | some body =>
    rw [put_of_some hc, place]
    split
    · exact h.continue hc _
    · exact h.complete hc _

lemma recalls_empty : empty.Recalls [] where
  parts _ := Parts.tell_empty
  nonempty _ _ h := nomatch h
  object h := nomatch h
  vacant _ _ := rfl

lemma Recalls.treats (h : s.Recalls history) (c : Submission) : s.Treats history c where
  refused hc := put_of_none hc s
  accepted hc := by
    obtain ⟨body, hbody⟩ := Option.ne_none_iff_exists'.mp hc
    rw [put_of_some hbody]
    refine ⟨_, rfl, ?_⟩
    rw [← (h.tell_insert hbody).count_eq, place]
    split
    · next hlt => exact iff_of_false Bool.false_ne_true (Nat.not_le.mpr hlt)
    · next hle => exact iff_of_true rfl (Nat.not_lt.mp hle)

lemma recalls_remember (calls : List Submission) : (remember calls).1.Recalls (remember calls).2 := by
  induction calls with
  | nil => exact recalls_empty
  | cons c earlier ih => exact ih.put c

/-- After any calls, what is held and what is said of an object is told by the history of the calls, and so is what becomes
of one more call. -/
theorem history_decides (calls : List Submission) :
    (remember calls).1.Recalls (remember calls).2 ∧
      (∀ {y receipt before}, LastCompletion (remember calls).2 y receipt before → (remember calls).1.head y.path =
        .ok ⟨(joined (y.toSubmission :: since y.path before)).size, some receipt.etag⟩) ∧
      ∀ c, (remember calls).1.Treats (remember calls).2 c := by
  have hrecalls := recalls_remember calls
  refine ⟨hrecalls, fun hlast => ?_, hrecalls.treats⟩
  rw [head, hrecalls.object hlast]

end ObjectStore

end ResumableUpload
