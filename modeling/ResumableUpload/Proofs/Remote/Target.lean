import ResumableUpload.Proofs.Dialogue
import ResumableUpload.Proofs.Http.Url
import ResumableUpload.Remote.Registry
import ResumableUpload.Remote.Secrets
import ResumableUpload.Upload.Keys

/-! Under which targets the remote services are asked about a file. -/

namespace ResumableUpload

namespace Http

variable {method target : String} {headers : List (String × String)} {payload : Payload} {x : Outgoing}

lemma target_address (url : Url) (headers : List (String × String)) : (address url headers).1.target = url.target := by
  rw [address]
  split <;> rfl

lemma isHttp_address (url : Url) (headers : List (String × String)) : (address url headers).1.isHttp = url.isHttp := by
  rw [address]
  split <;> rfl

lemma exists_of_build (h : build method target headers payload = .ok x) :
    ∃ url, Url.read? target = some url ∧ url.isHttp = true ∧ x.url.target = url.target := by
  rw [build] at h
  split at h
  · cases h
  · next url hread =>
    dsimp only at h
    split at h
    · cases h
    · split at h
      · cases h
      · split at h <;> cases h
        next hhttp =>
          rw [isHttp_address, Bool.and_eq_true] at hhttp
          exact ⟨url, hread, hhttp.1, target_address url headers⟩

lemma build_of_first?_send (h : (send method target headers payload).first? = some x) :
    build method target headers payload = .ok x := by
  rw [send] at h
  split at h
  · cases h
  · next hbuild =>
    cases h
    exact hbuild

end Http

inductive RemoteSecrets.Asks (r : RemoteSecrets) (root path : String) (x : Http.Outgoing) : Prop
  | write {name value : String} : (r.respond (.write (Keys.secretPath root path) name value)).first? = some x →
      Asks r root path x
  | read {name : String} : (r.respond (.read (Keys.secretPath root path) name)).first? = some x → Asks r root path x

inductive RemoteRegistry.Asks (r : RemoteRegistry) (path : String) (x : Http.Outgoing) : Prop
  | mark {authorization : Option String} {etag : String} :
      (r.respond (.mark authorization path etag)).first? = some x → Asks r path x
  | find {authorization : Option String} : (r.respond (.find authorization path)).first? = some x → Asks r path x

lemma RemoteSecrets.Asks.exists_url {r : RemoteSecrets} {root path : String} {x : Http.Outgoing} (h : r.Asks root path x) :
    ∃ url, Http.Url.read? (r.secretUrl (Keys.secretPath root path)) = some url ∧ url.isHttp = true ∧
      x.url.target = url.target := by
  cases h with
  | write h | read h =>
    rw [RemoteSecrets.respond, Dialogue.first?_map] at h
    exact Http.exists_of_build (Http.build_of_first?_send h)

lemma RemoteRegistry.Asks.exists_url {r : RemoteRegistry} {path : String} {x : Http.Outgoing} (h : r.Asks path x) :
    ∃ url, Http.Url.read? (r.fileUrl path) = some url ∧ url.isHttp = true ∧ x.url.target = url.target := by
  cases h with
  | mark h | find h =>
    rw [RemoteRegistry.respond, Dialogue.first?_map] at h
    exact Http.exists_of_build (Http.build_of_first?_send h)

def RemoteSecrets.stem (r : RemoteSecrets) (root : String) : Http.Stem where
  front := (Text.trimEndBy (· = '/') r.address).toList
  first := 'v'
  back := '1' :: match root.toList.dropWhile (· = '/') with
    | [] => []
    | rest => '/' :: rest
  isKeyChar_first := by decide
  first_ne_slash := by decide

def RemoteRegistry.stem (r : RemoteRegistry) : Http.Stem where
  front := r.base.toList
  first := 'f'
  back := "iles".toList
  isKeyChar_first := by decide
  first_ne_slash := by decide

lemma dropWhile_slash {path : List Char} (h : path.head? ≠ some '/') : path.dropWhile (· = '/') = path := by
  cases path with
  | nil => rfl
  | cons c rest =>
    have hc : c ≠ '/' := fun he => h (he ▸ rfl)
    simp [hc]

lemma RemoteSecrets.secretUrl_eq (r : RemoteSecrets) (root : String) {path : String} (h : path.toList.head? ≠ some '/') :
    r.secretUrl (Keys.secretPath root path) = String.ofList ((r.stem root).extend path.toList) := by
  apply String.toList_injective
  have hpath : (Keys.secretPath root path).toList = root.toList ++ '/' :: path.toList := by
    change (root ++ "/" ++ path).toList = _
    simp
  have hroot : r.root.toList = (r.stem root).front ++ ['/', 'v', '1', '/'] := by simp [RemoteSecrets.root, stem]
  rw [secretUrl, String.toList_append, hroot, Text.trimStartBy, String.toList_ofList, String.toList_ofList,
    Text.Trim.start, hpath, List.dropWhile_append, Http.Stem.extend]
  simp only [stem]
  cases root.toList.dropWhile (· = '/') with
  | nil => simp [dropWhile_slash h]
  | cons c rest => simp

lemma RemoteRegistry.fileUrl_eq (r : RemoteRegistry) {path : String} (h : path.toList.head? ≠ some '/') :
    r.fileUrl path = String.ofList (r.stem.extend path.toList) := by
  apply String.toList_injective
  have hpath : (Text.trimStartBy (· = '/') path).toList = path.toList := by
    rw [Text.trimStartBy, String.toList_ofList, Text.Trim.start, dropWhile_slash h]
  change (r.base ++ "/files/" ++ Text.trimStartBy (· = '/') path).toList = _
  simp [hpath, Http.Stem.extend, stem]

namespace UploadPath

/-- Two paths behind one address end up at the same target: the address has a fragment, or it has no query and the
paths differ only by dots. -/
def Merges (address p q : String) : Prop :=
  '#' ∈ address.toList ∨ '?' ∉ address.toList ∧ undotted (segments p.toList) = undotted (segments q.toList)

/-- Two different paths of files have the same target just when their addresses are merged. -/
theorem targets_eq_iff {p q : String} (hp : valid p = true) (hq : valid q = true) (hne : p ≠ q) :
    (∀ (secrets : RemoteSecrets) (root : String) (x y : Http.Outgoing), secrets.Asks root p x → secrets.Asks root q y →
      (x.url.target = y.url.target ↔ Merges (secrets.secretUrl (Keys.secretPath root "")) p q)) ∧
    ∀ (registry : RemoteRegistry) (x y : Http.Outgoing), registry.Asks p x → registry.Asks q y →
      (x.url.target = y.url.target ↔ Merges (registry.fileUrl "") p q) := by
  have hpath := plain_of_valid hp
  have hpath' := plain_of_valid hq
  have hlists : p.toList ≠ q.toList := fun he => hne (String.toList_injective he)
  have hnil : "".toList.head? ≠ some '/' := nofun
  constructor
  · intro secrets root x y hx hy
    obtain ⟨u, hu, huhttp, htarget⟩ := hx.exists_url
    obtain ⟨v, hv, hvhttp, htarget'⟩ := hy.exists_url
    rw [secrets.secretUrl_eq root hpath.not_slash] at hu
    rw [secrets.secretUrl_eq root hpath'.not_slash] at hv
    rw [Merges, secrets.secretUrl_eq root hnil, String.toList_ofList, htarget, htarget']
    exact (secrets.stem root).target_eq_iff hpath hpath' hlists hu hv huhttp hvhttp
  · intro registry x y hx hy
    obtain ⟨u, hu, huhttp, htarget⟩ := hx.exists_url
    obtain ⟨v, hv, hvhttp, htarget'⟩ := hy.exists_url
    rw [registry.fileUrl_eq hpath.not_slash] at hu
    rw [registry.fileUrl_eq hpath'.not_slash] at hv
    rw [Merges, registry.fileUrl_eq hnil, String.toList_ofList, htarget, htarget']
    exact registry.stem.target_eq_iff hpath hpath' hlists hu hv huhttp hvhttp

def nearSecrets : RemoteSecrets := ⟨"http://h", "t"⟩

lemma exists_asks (path target : String) (h : (nearSecrets.respond (.read (Keys.secretPath "k" path) "key")).first?.map
    (·.url.target) = some target) : ∃ x, nearSecrets.Asks "k" path x ∧ x.url.target = target := by
  obtain ⟨x, hx, htarget⟩ := Option.map_eq_some_iff.mp h
  exact ⟨x, .read hx, htarget⟩

theorem neighbours_targets_ne : ∃ x y, nearSecrets.Asks "k" "a/b" x ∧ nearSecrets.Asks "k" "a/c" y ∧ x.url.target ≠ y.url.target := by
  obtain ⟨x, hx, -⟩ := exists_asks "a/b" "/v1/k/a/b" (by decide +kernel)
  obtain ⟨y, hy, -⟩ := exists_asks "a/c" "/v1/k/a/c" (by decide +kernel)
  have hiff := (targets_eq_iff (p := "a/b") (q := "a/c") (by decide) (by decide) (by decide)).1 nearSecrets "k" x y hx hy
  have hmerges : ¬ Merges (nearSecrets.secretUrl (Keys.secretPath "k" "")) "a/b" "a/c" := by
    rintro (hfragment | ⟨-, hdots⟩)
    · revert hfragment
      decide +kernel
    · revert hdots
      decide
  exact ⟨x, y, hx, hy, fun he => hmerges (hiff.mp he)⟩

/-- A dot between slashes is a valid segment, and is gone from the target. -/
theorem dotted_targets_eq : ¬ ∀ (p q : String), valid p = true → valid q = true → p ≠ q →
    (∀ (secrets : RemoteSecrets) (root : String) (x y : Http.Outgoing), secrets.Asks root p x → secrets.Asks root q y →
      x.url.target ≠ y.url.target) ∧
    ∀ (registry : RemoteRegistry) (x y : Http.Outgoing), registry.Asks p x → registry.Asks q y →
      x.url.target ≠ y.url.target := by
  intro hall
  obtain ⟨x, hx, htarget⟩ := exists_asks "a/./b" "/v1/k/a/b" (by decide +kernel)
  obtain ⟨y, hy, htarget'⟩ := exists_asks "a/b" "/v1/k/a/b" (by decide +kernel)
  exact (hall "a/./b" "a/b" (by decide) (by decide) (by decide)).1 nearSecrets "k" x y hx hy (htarget.trans htarget'.symm)

end UploadPath

end ResumableUpload
