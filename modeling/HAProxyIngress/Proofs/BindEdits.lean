import HAProxyIngress.Handler.Https
import Mathlib.Data.List.Nodup

/-! Editing the binds of a frontend one by one. -/

namespace HAProxyIngress.Proofs.BindEdits

open HAProxyIngress.Model HAProxyIngress.Handler

def editBinds (bs l : List Bind) : List Bind :=
  bs.foldl (fun l b => replace Bind.name l b.name fun _ => b) l

@[simp] lemma editBinds_nil : editBinds [] = id := rfl

lemma editBinds_cons (b : Bind) (bs l : List Bind) :
    editBinds (b :: bs) l = editBinds bs (replace Bind.name l b.name fun _ => b) := rfl

lemma editBinds_eq (bs l : List Bind) :
    editBinds bs l = l.map fun x => (bs.reverse.find? (·.name = x.name)).getD x := by
  induction bs generalizing l with
  | nil => simp [editBinds]
  | cons b bs ih =>
    rw [editBinds_cons, ih, replace, List.map_map]
    congr 1
    funext x
    by_cases hx : x.name = b.name
    · simp only [Function.comp, hx, if_true, List.reverse_cons, List.find?_append]
      cases bs.reverse.find? (·.name = b.name) <;> simp
    · simp [hx, Ne.symm hx, List.find?_append]

lemma editBinds_mem {bs l : List Bind} (hl : ∀ x ∈ l, ∃ b ∈ bs, b.name = x.name) :
    ∀ y ∈ editBinds bs l, y ∈ bs := by
  rw [editBinds_eq]
  simp only [List.mem_map]
  rintro y ⟨x, hx, rfl⟩
  obtain ⟨b, hb, hbx⟩ := hl x hx
  cases hf : bs.reverse.find? (·.name = x.name) with
  | none => exact absurd (List.find?_eq_none.1 hf b (List.mem_reverse.2 hb)) (by simpa using hbx)
  | some y => simpa using List.mem_reverse.1 (List.mem_of_find?_eq_some hf)

lemma find?_name_of_nodup {bs : List Bind} (hn : (bs.map Bind.name).Nodup) {b : Bind} (hb : b ∈ bs) :
    bs.reverse.find? (·.name = b.name) = some b := by
  obtain ⟨y, hy⟩ := Option.isSome_iff_exists.1
    ((@List.find?_isSome _ bs.reverse fun x => decide (x.name = b.name)).2
      ⟨b, List.mem_reverse.2 hb, decide_eq_true rfl⟩)
  have hyn : y.name = b.name := by simpa using List.find?_some hy
  rw [hy, List.inj_on_of_nodup_map hn (List.mem_reverse.1 (List.mem_of_find?_eq_some hy)) hb hyn]

lemma editBinds_of_names {bs l : List Bind} (hn : (bs.map Bind.name).Nodup)
    (hl : l.map Bind.name = bs.map Bind.name) : editBinds bs l = bs := by
  rw [editBinds_eq]
  suffices ∀ (l bs' : List Bind), (∀ b ∈ bs', b ∈ bs) → l.map Bind.name = bs'.map Bind.name →
      l.map (fun x => (bs.reverse.find? (·.name = x.name)).getD x) = bs' from
    this l bs (fun _ h => h) hl
  intro l
  induction l with
  | nil => intro bs' _ h; exact (List.map_eq_nil_iff.1 h.symm).symm
  | cons x xs ih =>
    rintro (_ | ⟨b, bs'⟩) hsub h
    · cases h
    · simp only [List.map_cons, List.cons.injEq] at h ⊢
      have hb := hsub b (List.mem_cons_self _ _)
      rw [h.1, find?_name_of_nodup hn hb]
      exact ⟨rfl, ih bs' (fun c hc => hsub c (List.mem_cons_of_mem _ hc)) h.2⟩

lemma eachBind_edit_post (ft : String) (err : Option Err) (bs : List Bind) (s : St) :
    Go.Post (HTTPS.eachBind (Api.frontendBindEdit ft) err bs) s fun r s' => ∀ err', r = .ok err' →
      err' = (if bs = [] then err else none) ∧
      s' = { s with proxy := s.proxy.modifyBinds ft (editBinds bs),
                    faults := s.faults.drop bs.length,
                    log := s.log ++ bs.map fun _ => .api .frontendBindEdit true } := by
  induction bs generalizing s err with
  | nil => simp [HTTPS.eachBind]
  | cons b bs ih =>
    simp only [HTTPS.eachBind, Go.post_bind, Api.frontendBindEdit, Api.post_mutate]
    split
    · rename_i p hp
      obtain rfl := Proxy.frontendBindEdit_eq_some (Api.outcome_some hp)
      refine (ih none _).mono ?_
      rintro r s' h err' rfl
      obtain ⟨rfl, rfl⟩ := h err' rfl
      simp only [Proxy.modifyBinds_modifyBinds, List.drop_tail, List.map_cons, List.append_assoc,
        List.singleton_append, List.cons_ne_nil, if_false]
      exact ⟨ite_self _, rfl⟩
    · exact Go.post_pure.2 nofun

lemma eachBind_edit_ok {ft : String} {err : Option Err} {bs l : List Bind} {s : St}
    (hs : s.faults = []) (hl : Proxy.frontendBindsGet ft s.proxy = some l)
    (hn : ∀ b ∈ bs, b.name ∈ l.map Bind.name) :
    ∃ err' s', HTTPS.eachBind (Api.frontendBindEdit ft) err bs s = .ok (.ok err', s') := by
  induction bs generalizing s err l with
  | nil => exact ⟨err, s, rfl⟩
  | cons b bs ih =>
    have he := Api.mutate_of_faults_nil Call.frontendBindEdit (Proxy.frontendBindEdit ft b) hs
    rw [Proxy.frontendBindEdit_of_mem hl (hn b (List.mem_cons_self _ _))] at he
    simp only [HTTPS.eachBind, Api.frontendBindEdit, Go.bind_of_ok he]
    refine @ih none (replace Bind.name l b.name fun _ => b) _ hs (by simp [hl]) fun b' hb' => ?_
    rw [map_replace Bind.name fun _ h => h.symm]
    exact hn b' (List.mem_cons_of_mem _ hb')

lemma eachBind_edit_nil {ft : String} {err : Option Err} {bs l : List Bind} {s : St}
    (hs : s.faults = []) (hl : Proxy.frontendBindsGet ft s.proxy = some l)
    (hn : ∀ b ∈ bs, b.name ∈ l.map Bind.name) :
    Go.Post (HTTPS.eachBind (Api.frontendBindEdit ft) err bs) s fun r s' =>
      r = .ok (if bs = [] then err else none) ∧
      s' = { s with proxy := s.proxy.modifyBinds ft (editBinds bs),
                    log := s.log ++ bs.map fun _ => .api .frontendBindEdit true } := by
  intro r s' h
  obtain ⟨e, s'', he⟩ := eachBind_edit_ok hs hl hn
  obtain ⟨rfl, rfl⟩ : r = .ok e ∧ s' = s'' := by
    rw [he] at h
    cases h
    exact ⟨rfl, rfl⟩
  obtain ⟨rfl, rfl⟩ := eachBind_edit_post ft err bs s _ _ he e rfl
  simp [hs]

lemma eachBind_create_nil {ft : String} {err : Option Err} {bs l : List Bind} {s : St}
    (hs : s.faults = []) (hl : Proxy.frontendBindsGet ft s.proxy = some l)
    (hne : ∀ b ∈ bs, b.name ≠ "") (hfresh : ∀ b ∈ bs, b.name ∉ l.map Bind.name)
    (hn : (bs.map Bind.name).Nodup) :
    Go.Post (HTTPS.eachBind (Api.frontendBindCreate ft) err bs) s fun r s' =>
      r = .ok (if bs = [] then err else none) ∧
      s' = { s with proxy := s.proxy.modifyBinds ft (· ++ bs),
                    log := s.log ++ bs.map fun _ => .api .frontendBindCreate true } := by
  induction bs generalizing s l err with
  | nil => simp [HTTPS.eachBind]
  | cons b bs ih =>
    simp only [List.mem_cons, forall_eq_or_imp, List.map_cons, List.nodup_cons] at hne hfresh hn
    simp only [HTTPS.eachBind, Go.post_bind, Api.frontendBindCreate, Api.post_mutate_nil hs,
      Proxy.frontendBindCreate_of_fresh hl hne.1 hfresh.1]
    let s₁ : St :=
      { s with proxy := s.proxy.modifyBinds ft (· ++ [b]), log := s.log ++ [.api .frontendBindCreate true] }
    refine (@ih none (l ++ [b]) s₁ hs (by simp [s₁, hl]) hne.2 (fun c hc => ?_) hn.2).mono ?_
    · simp only [List.map_append, List.map_cons, List.map_nil, List.mem_append, List.mem_singleton,
        not_or]
      exact ⟨hfresh.2 c hc, fun h => hn.1 (h ▸ List.mem_map_of_mem _ hc)⟩
    · rintro r s' ⟨rfl, rfl⟩
      simp [Proxy.modifyBinds_modifyBinds, Function.comp_def]

end HAProxyIngress.Proofs.BindEdits
