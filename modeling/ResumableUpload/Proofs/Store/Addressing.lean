import ResumableUpload.Proofs.Store.Answers

/-! Every call is about one path. What is held for the path decides its answer and what it leaves there, and what is held
for other paths stays. -/

namespace ResumableUpload

def Call.At (root path : String) : Call → Prop
  | .storage (.put p ..) | .storage (.head p) | .registry (.mark _ p _) | .registry (.find _ p) => p = path
  | .registry (.register _ m) => m.path = path
  | .secret (.write p name _) | .secret (.read p name) => p = Keys.secretPath root path ∧ name = Keys.entryName
  | .storage .check | .registry .check | .secret .check | .freshKey => True

def Call.given : (c : Call) → c.Answer → List (Except String EncryptionKey)
  | .freshKey, key => [key]
  | _, _ => []

namespace Backends

variable {root path : String} {b b' b₁ b₁' : Backends} {c : Call}

structure Alike (root path : String) (c : Call) (b b' : Backends) : Prop where
  answer : (respond c b).1 = (respond c b').1
  holding : ∃ h, (respond c b).2.holding (some root) = Function.update (b.holding (some root)) path h ∧
    (respond c b').2.holding (some root) = Function.update (b'.holding (some root)) path h

section

variable (hb : b.holding (some root) path = b'.holding (some root) path)
include hb

lemma Alike.of {a : c.Answer} (f : Holding → Holding) (h : respond c b = (a, b₁)) (h' : respond c b' = (a, b₁'))
    (hf : b₁.holding (some root) = Function.update (b.holding (some root)) path (f (b.holding (some root) path)))
    (hf' : b₁'.holding (some root) = Function.update (b'.holding (some root)) path (f (b'.holding (some root) path))) :
    Alike root path c b b' := by
  refine ⟨by rw [h, h'], f (b.holding (some root) path), ?_, ?_⟩
  · rw [h, hf]
  · rw [h', hf', hb]

lemma Alike.look {a : c.Answer} (h : respond c b = (a, b₁)) (h' : respond c b' = (a, b₁'))
    (hk : b₁.holding (some root) = b.holding (some root)) (hk' : b₁'.holding (some root) = b'.holding (some root)) :
    Alike root path c b b' := by
  apply Alike.of hb id h h'
  · rw [hk, id, Function.update_eq_self]
  · rw [hk', id, Function.update_eq_self]

lemma alike_head : Alike root path (.storage (.head path)) b b' := by
  cases ho : (b.holding (some root) path).object with
  | none => exact .look hb (respond_head_of_none ho) (respond_head_of_none (hb ▸ ho)) rfl rfl
  | some o => exact .look hb (respond_head_of_some ho) (respond_head_of_some (hb ▸ ho)) rfl rfl

lemma alike_put (chunk : Chunk) (payload : Bytes) (key : Option EncryptionKey) :
    Alike root path (.storage (.put path chunk payload key)) b b' := by
  by_cases hs : chunk.SizeAdmissible payload.size
  · cases hbody : chunk.body payload key with
    | error e =>
      obtain ⟨e, hput⟩ := respond_put_refused (.inr ⟨e, hbody⟩) path
      exact .look hb (hput b) (hput b') rfl rfl
    | ok body =>
      have h : respond (.storage (.put path chunk payload key)) b = _ := respond_put hs hbody
      have h' : respond (.storage (.put path chunk payload key)) b' = _ := respond_put hs hbody
      by_cases hc : ((b.holding (some root) path).parts.insert chunk.current body).count < chunk.total
      · rw [place_of_lt hc] at h
        rw [place_of_lt (hb ▸ hc)] at h'
        exact .of hb (fun h => { h with parts := h.parts.insert chunk.current body }) h h'
          (b.holding_insert_parts path _) (b'.holding_insert_parts path _)
      · rw [place_of_le (Nat.le_of_not_lt hc) rfl] at h
        rw [place_of_le (Nat.le_of_not_lt (hb ▸ hc)) rfl, ← hb] at h'
        exact .of hb (fun h => { h with parts := ∅, object := some _ }) h h' (b.holding_insert_object path _)
          (b'.holding_insert_object path _)
  · obtain ⟨e, hput⟩ := respond_put_refused (.inl hs) path
    exact .look hb (hput b) (hput b') rfl rfl

lemma alike_register (authorization : Option String) {m : FileMetadata} (hm : m.path = path) :
    Alike root path (.registry (.register authorization m)) b b' := by
  subst hm
  cases hr : (b.holding (some root) m.path).record with
  | some f => exact .look hb (respond_register_of_some hr) (respond_register_of_some (hb ▸ hr)) rfl rfl
  | none =>
    exact .of hb (fun h => { h with record := some ⟨m, .created, none⟩ }) (respond_register_of_none hr)
      (respond_register_of_none (hb ▸ hr)) (b.holding_insert_record m.path _ _ rfl)
      (b'.holding_insert_record m.path _ _ rfl)

lemma alike_mark (authorization : Option String) (etag : String) :
    Alike root path (.registry (.mark authorization path etag)) b b' := by
  cases hr : (b.holding (some root) path).record with
  | none => exact .look hb (respond_mark_of_none hr) (respond_mark_of_none (hb ▸ hr)) rfl rfl
  | some f =>
    obtain ⟨m, state, old⟩ := f
    cases state with
    | uploaded => exact .look hb (respond_mark_of_uploaded hr rfl) (respond_mark_of_uploaded (hb ▸ hr) rfl) rfl rfl
    | created =>
      exact .of hb (fun h => { h with record := some ⟨m, .uploaded, some etag⟩ }) (respond_mark_of_created hr)
        (respond_mark_of_created (hb ▸ hr)) (b.holding_insert_record path _ _ rfl)
        (b'.holding_insert_record path _ _ rfl)

lemma alike_find (authorization : Option String) : Alike root path (.registry (.find authorization path)) b b' := by
  cases hr : (b.holding (some root) path).record with
  | none => exact .look hb (respond_find_of_none hr) (respond_find_of_none (hb ▸ hr)) rfl rfl
  | some f => exact .look hb (respond_find_of_some hr) (respond_find_of_some (hb ▸ hr)) rfl rfl

lemma alike_write (value : String) :
    Alike root path (.secret (.write (Keys.secretPath root path) Keys.entryName value)) b b' :=
  .of hb (fun h => { h with key := some value }) rfl rfl (b.holding_write_key path root value)
    (b'.holding_write_key path root value)

lemma alike_read : Alike root path (.secret (.read (Keys.secretPath root path) Keys.entryName)) b b' := by
  cases hk : (b.holding (some root) path).key with
  | none => exact .look hb (respond_read_of_none hk) (respond_read_of_none (hb ▸ hk)) rfl rfl
  | some text => exact .look hb (respond_read hk) (respond_read (hb ▸ hk)) rfl rfl

lemma alike_freshKey (hkey : (respond .freshKey b).1 = (respond .freshKey b').1) : Alike root path .freshKey b b' := by
  have h' : respond .freshKey b' = ((respond .freshKey b).1, (respond .freshKey b').2) := Prod.ext hkey.symm rfl
  exact .look hb Prod.mk.eta.symm h' (holding_freshKey _ b) (holding_freshKey _ b')

theorem alike_of_at (hc : c.At root path) {keys keys' : List (Except String EncryptionKey)}
    (hkeys : c.given (respond c b).1 ++ keys = c.given (respond c b').1 ++ keys') :
    Alike root path c b b' ∧ keys = keys' := by
  cases c with
  | storage c =>
    refine ⟨?_, hkeys⟩
    cases c with
    | put p chunk payload key =>
      obtain rfl : p = path := hc
      exact alike_put hb chunk payload key
    | head p =>
      obtain rfl : p = path := hc
      exact alike_head hb
    | check => exact .look hb rfl rfl rfl rfl
  | registry c =>
    refine ⟨?_, hkeys⟩
    cases c with
    | register authorization m => exact alike_register hb authorization hc
    | mark authorization p etag =>
      obtain rfl : p = path := hc
      exact alike_mark hb authorization etag
    | find authorization p =>
      obtain rfl : p = path := hc
      exact alike_find hb authorization
    | check => exact .look hb rfl rfl rfl rfl
  | secret c =>
    refine ⟨?_, hkeys⟩
    cases c with
    | write p name value =>
      obtain ⟨rfl, rfl⟩ := hc
      exact alike_write hb value
    | read p name =>
      obtain ⟨rfl, rfl⟩ := hc
      exact alike_read hb
    | check => exact .look hb rfl rfl rfl rfl
  | freshKey =>
    obtain ⟨hkey, hrest⟩ := List.cons.inj hkeys
    exact ⟨alike_freshKey hb hkey, hrest⟩

end

lemma holding_respond_of_ne {q : String} (hc : c.At root path) (hq : q ≠ path) :
    (respond c b).2.holding (some root) q = b.holding (some root) q := by
  have hkeys : c.given (respond c b).1 ++ [] = c.given (respond c b).1 ++ [] := rfl
  obtain ⟨⟨_, h, hh, _⟩, _⟩ := alike_of_at rfl hc hkeys
  rw [hh, Function.update_of_ne hq]

end Backends

end ResumableUpload
