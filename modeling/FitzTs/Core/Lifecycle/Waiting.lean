import FitzTs.Core.Lifecycle
/-!
# FitzTs.Core.Lifecycle.Waiting

Which loop of `FitzTs.Core.Lifecycle` waits for which, and that none waits for ever.

A loop waits for a container while the call it has made there is pending. The waiting comes to an
end as long as no loop calls a scope that waits for it (`Linked`), and where it ends something can
happen (`AllLawful.noDeadlock`). A loop that does call such a scope closes a circle, on which nobody
goes on (`AllLawful.breaks_of_circle`); that takes a container that contains itself, through others
perhaps (`neverCircles_of_rank`).

## Main results

* `disposes_throughout_iff` — in every state of a run each container disposes of its resources once,
  in reverse order and one by one, none waits for ever for another, and all calls of `dispose` on a
  scope see its first failure, exactly when no scope comes to the end of its loop with a failure and
  no loop comes to a scope that waits for it.
* `guarded_endsWell` — no loop does that if no container contains itself through others.
-/

namespace FitzTs.Core

namespace Lifecycle

variable {s s' : Lifecycle}

/-! ### Who waits for whom -/

/-- What the loops refer to has been made, and what they wait for has been called. -/
structure Linked (s : Lifecycle) : Prop where
  made : ∀ c d, .container d ∈ (s.containers c).resources ++ (s.containers c).snapshot →
    d < s.created
  unused : ∀ c, s.created ≤ c → s.containers c = {}
  called : ∀ c d role, (s.containers c).awaiting = some (.call d role) →
    (s.containers d).phase ≠ .live ∧ (role = .waits → (s.containers d).kind = .scope)
  started : ∀ c d role, (s.containers c).awaiting = some (.call d role) →
    .container d ∈ (s.containers c).started
  ends : ∀ c, WaitGraph.Ends s.waitsFor c

theorem linked_init : machine.init.Linked where
  made := fun _ _ hmem => by cases hmem
  unused := fun _ _ => rfl
  called := fun _ _ _ hawaiting => by cases hawaiting
  started := fun _ _ _ hawaiting => by cases hawaiting
  ends := fun _ => WaitGraph.ends_of_none rfl

theorem waitsFor_of_idle {c : Nat} (h : (s.containers c).awaiting = none) :
    s.waitsFor c = none := by
  unfold waitsFor
  rw [h]

theorem waitsFor_of_external {c : Nat} (h : (s.containers c).awaiting = some .external) :
    s.waitsFor c = none := by
  unfold waitsFor
  rw [h]

theorem waitsFor_of_call {c d : Nat} {role : Role}
    (h : (s.containers c).awaiting = some (.call d role)) : s.waitsFor c =
      if (s.containers d).outcome role = .pending then some d else none := by
  unfold waitsFor
  rw [h]

theorem waitsFor_eq_some {c d : Nat} (h : s.waitsFor c = some d) :
    ∃ role, (s.containers c).awaiting = some (.call d role) ∧
      (s.containers d).outcome role = .pending := by
  unfold waitsFor at h
  split at h
  · rename_i d' role hawaiting
    obtain ⟨hpending, heq⟩ := Option.ite_none_right_eq_some.mp h
    obtain rfl := Option.some.inj heq
    exact ⟨role, hawaiting, hpending⟩
  · cases h

/-- One container changes, and not what its calls return: the others wait as before. -/
theorem waitsFor_update {c a : Nat} {k : Container}
    (houtcome : ∀ role, k.outcome role = (s.containers c).outcome role) (ha : a ≠ c) :
    (s.update c k).waitsFor a = s.waitsFor a := by
  unfold waitsFor
  rw [update_of_ne _ _ ha]
  split
  · rename_i d role _
    by_cases hd : d = c
    · subst hd
      rw [update_self, houtcome role]
    · rw [update_of_ne _ _ hd]
  · rfl

/-- And if it waits for the same, it waits as before, too. -/
theorem waitsFor_update_same {c : Nat} {k : Container}
    (houtcome : ∀ role, k.outcome role = (s.containers c).outcome role)
    (hawaiting : k.awaiting = (s.containers c).awaiting) (a : Nat) :
    (s.update c k).waitsFor a = s.waitsFor a := by
  by_cases ha : a = c
  · subst ha
    unfold waitsFor
    rw [update_self, hawaiting]
    split
    · rename_i d role _
      by_cases hd : d = a
      · subst hd
        rw [update_self, houtcome role]
      · rw [update_of_ne _ _ hd]
    · rfl
  · exact waitsFor_update houtcome ha

/-- A loop that starts a disposal returns nothing yet. -/
theorem waitsFor_start {c a : Nat} {r : Resource} {rest : List Resource} {awaited : Awaited}
    (ha : a ≠ c) :
    (s.update c ((s.containers c).start r rest awaited)).waitsFor a = s.waitsFor a :=
  waitsFor_update (fun _ => rfl) ha

/-- Whatever a container changes to that waits for nobody, the others wait as before or for it. -/
theorem ends_update {c : Nat} {k : Container} (h : ∀ a, WaitGraph.Ends s.waitsFor a)
    (hidle : (s.update c k).waitsFor c = none) (a : Nat) :
    WaitGraph.Ends (s.update c k).waitsFor a := by
  refine (h a).release hidle fun b hb => ?_
  unfold waitsFor
  rw [update_of_ne _ _ hb]
  split
  · rename_i d role _
    by_cases hd : d = c
    · subst hd
      split
      · exact Or.inr (Or.inr rfl)
      · exact Or.inr (Or.inl rfl)
    · rw [update_of_ne _ _ hd]
      exact Or.inl rfl
  · exact Or.inl rfl

/-- What a container that has been made may change to. -/
structure Follows (s : Lifecycle) (c : Nat) (k : Container) : Prop where
  made : ∀ d, .container d ∈ k.resources ++ k.snapshot → d < s.created
  kind : k.kind = (s.containers c).kind
  phase : k.phase = .live → (s.containers c).phase = .live
  started : ∀ d role, k.awaiting = some (.call d role) → .container d ∈ k.started
  called : ∀ d role, k.awaiting = some (.call d role) →
    (if d = c then k.phase ≠ .live else (s.containers d).phase ≠ .live) ∧
      (role = .waits → (s.containers d).kind = .scope)

theorem Linked.update (h : s.Linked) {c : Nat} {k : Container} (hc : c < s.created)
    (hk : s.Follows c k) (hends : ∀ a, WaitGraph.Ends (s.update c k).waitsFor a) :
    (s.update c k).Linked := by
  -- no container becomes one of another kind
  have hkind : ∀ d, ((s.update c k).containers d).kind = (s.containers d).kind := by
    intro d
    by_cases hd : d = c
    · subst hd
      rw [update_self, hk.kind]
    · rw [update_of_ne _ _ hd]
  refine ⟨fun a d hmem => ?_, fun a ha => ?_, fun a d role hawaiting => ?_,
    fun a d role hawaiting => ?_, hends⟩
  · by_cases hac : a = c
    · subst hac
      rw [update_self] at hmem
      exact hk.made d hmem
    · rw [update_of_ne _ _ hac] at hmem
      exact h.made a d hmem
  · have hac : a ≠ c := fun heq => absurd hc (Nat.not_lt.mpr (heq ▸ ha))
    rw [update_of_ne _ _ hac]
    exact h.unused a ha
  · rw [hkind]
    by_cases hac : a = c
    · subst hac
      rw [update_self] at hawaiting
      obtain ⟨hlive, hscope⟩ := hk.called d role hawaiting
      refine ⟨?_, hscope⟩
      by_cases hd : d = a
      · subst hd
        rw [if_pos rfl] at hlive
        rw [update_self]
        exact hlive
      · rw [if_neg hd] at hlive
        rw [update_of_ne _ _ hd]
        exact hlive
    · rw [update_of_ne _ _ hac] at hawaiting
      obtain ⟨hlive, hscope⟩ := h.called a d role hawaiting
      refine ⟨?_, hscope⟩
      by_cases hd : d = c
      · subst hd
        rw [update_self]
        exact fun hk' => hlive (hk.phase hk')
      · rw [update_of_ne _ _ hd]
        exact hlive
  · by_cases hac : a = c
    · subst hac
      rw [update_self] at hawaiting ⊢
      exact hk.started d role hawaiting
    · rw [update_of_ne _ _ hac] at hawaiting ⊢
      exact h.started a d role hawaiting

/-- A new container is not waited for, and waits for nobody. -/
theorem Linked.create (h : s.Linked) (kind : Kind) (name : String) :
    (s.create { kind, name }).Linked := by
  have hnew : (s.create { kind, name }).containers s.created = { kind, name } := update_self ..
  have hold : ∀ a, a ≠ s.created → (s.create { kind, name }).containers a = s.containers a :=
    fun a ha => update_of_ne _ _ ha
  refine ⟨fun a d hmem => ?_, fun a ha => ?_, fun a d role hawaiting => ?_,
    fun a d role hawaiting => ?_, ?_⟩
  · by_cases ha : a = s.created
    · rw [ha, hnew] at hmem
      cases hmem
    · rw [hold a ha] at hmem
      exact Nat.lt_succ_of_lt (h.made a d hmem)
  · have hlt : s.created < a := ha
    rw [hold a (Nat.ne_of_gt hlt)]
    exact h.unused a (Nat.le_of_lt hlt)
  · by_cases ha : a = s.created
    · rw [ha, hnew] at hawaiting
      cases hawaiting
    · rw [hold a ha] at hawaiting
      obtain ⟨hlive, hscope⟩ := h.called a d role hawaiting
      have hd : d ≠ s.created := by
        rintro rfl
        rw [h.unused s.created (Nat.le_refl _)] at hlive
        exact hlive rfl
      rw [hold d hd]
      exact ⟨hlive, hscope⟩
  · by_cases ha : a = s.created
    · rw [ha, hnew] at hawaiting
      cases hawaiting
    · rw [hold a ha] at hawaiting ⊢
      exact h.started a d role hawaiting
  · have hidle : (s.update s.created { kind, name }).waitsFor s.created = none :=
      waitsFor_of_idle (by rw [update_self])
    exact fun a => ends_update h.ends hidle a

theorem Linked.add (h : s.Linked) {c : Nat} {r : Resource} {k : Container} (hc : c < s.created)
    (hr : s.isMade r = true) (hadd : (s.containers c).add r = .ok k) : (s.update c k).Linked := by
  unfold Container.add at hadd
  split at hadd
  · cases hadd
  · obtain rfl := Except.ok.inj hadd
    refine h.update hc ⟨fun d hmem => ?_, rfl, fun hlive => hlive, fun d role => h.started c d role,
      fun d role hawaiting => ?_⟩ fun a => ?_
    · simp only [List.mem_append, List.mem_singleton] at hmem
      rcases hmem with (hmem | rfl) | hmem
      · exact h.made c d (List.mem_append_left _ hmem)
      · exact of_decide_eq_true hr
      · exact h.made c d (List.mem_append_right _ hmem)
    · obtain ⟨hlive, hscope⟩ := h.called c d role hawaiting
      refine ⟨?_, hscope⟩
      split
      · rename_i hd
        exact hd ▸ hlive
      · exact hlive
    · refine (h.ends a).congr fun b => ?_
      apply waitsFor_update_same
      · exact fun _ => rfl
      · rfl

theorem dispose_outcome (k : Container) (role : Role) :
    k.dispose.outcome role = k.outcome role := by
  unfold Container.dispose
  dsimp only
  split
  · rename_i hlive
    cases role with
    | runs => simp [Container.outcome, hlive]
    | waits => rfl
    | returns => rfl
  · cases role <;> rfl

theorem dispose_awaiting (k : Container) : k.dispose.awaiting = k.awaiting := by
  unfold Container.dispose
  dsimp only
  split <;> rfl

theorem dispose_ne_live (k : Container) : k.dispose.phase ≠ .live := by
  unfold Container.dispose
  dsimp only
  split
  · exact fun hlive => by cases hlive
  · assumption

/-- A call of `dispose` makes nobody wait. -/
theorem callDispose_waitsFor (c a : Nat) : (s.callDispose c).waitsFor a = s.waitsFor a :=
  waitsFor_update_same (dispose_outcome _) (dispose_awaiting _) a

theorem Linked.callDispose (h : s.Linked) {c : Nat} (hc : c < s.created) :
    (s.callDispose c).Linked := by
  refine h.update hc ⟨fun d hmem => ?_, ?_, fun hlive => absurd hlive (dispose_ne_live _),
    fun d role hawaiting => ?_, fun d role hawaiting => ?_⟩
    fun a => (h.ends a).congr fun b => callDispose_waitsFor c b
  · unfold Container.dispose at hmem
    dsimp only at hmem
    split at hmem
    · refine h.made c d (List.mem_append_left _ ?_)
      simpa using hmem
    · exact h.made c d hmem
  · unfold Container.dispose
    dsimp only
    split <;> rfl
  · rw [dispose_awaiting] at hawaiting
    have hstarted : (s.containers c).dispose.started = (s.containers c).started := by
      unfold Container.dispose
      dsimp only
      split <;> rfl
    rw [hstarted]
    exact h.started c d role hawaiting
  · rw [dispose_awaiting] at hawaiting
    obtain ⟨hlive, hscope⟩ := h.called c d role hawaiting
    refine ⟨?_, hscope⟩
    split
    · exact dispose_ne_live _
    · exact hlive

/-- The disposal that a loop waits for has ended. -/
theorem Linked.record (h : s.Linked) {c : Nat} {awaited : Awaited}
    (hawaiting : (s.containers c).awaiting = some awaited) (result : Option Thrown) :
    (s.update c ((s.containers c).record result)).Linked := by
  have hc : c < s.created := by
    by_contra hge
    rw [h.unused c (Nat.not_lt.mp hge)] at hawaiting
    cases hawaiting
  have hidle : (s.update c ((s.containers c).record result)).waitsFor c = none :=
    waitsFor_of_idle (by rw [update_self]; rfl)
  exact h.update hc ⟨fun d hmem => h.made c d hmem, rfl, fun hlive => hlive,
    fun _ _ hnone => (by cases hnone), fun _ _ hnone => (by cases hnone)⟩
    fun a => ends_update h.ends hidle a

/-- Adding to a container that is there already, and making a new one. -/
theorem update_create {c : Nat} (hc : c ≠ s.created) (k k' : Container) :
    (s.update c k).create k' = (s.create k').update c k := by
  unfold create update
  dsimp only
  rw [Function.update_comm hc]

theorem Linked.createIn (h : s.Linked) (kind : Kind) {name : String} {parent : Nat}
    (hs : s.createIn { kind, name } parent = some s') : s'.Linked := by
  obtain ⟨⟨hparent, -⟩, heq⟩ := Option.ite_none_right_eq_some.mp hs
  cases hadd : (s.containers parent).add (.container s.created) with
  | error error =>
      rw [hadd] at heq
      exact Option.some.inj heq ▸ h
  | ok parent' =>
      rw [hadd] at heq
      have hne : parent ≠ s.created := Nat.ne_of_lt hparent
      have hsame : (s.create { kind, name }).containers parent = s.containers parent :=
        update_of_ne _ _ hne
      obtain rfl := Option.some.inj heq
      rw [update_create hne]
      refine (h.create kind name).add (r := .container s.created) (Nat.lt_succ_of_lt hparent) ?_ ?_
      · exact decide_eq_true (Nat.lt_succ_self _)
      · rw [hsame]
        exact hadd

/-- The next of the snapshot is no container. -/
theorem Linked.startExternal (h : s.Linked) {c : Nat} {r : Resource} {rest : List Resource}
    (hphase : (s.containers c).phase = .disposing)
    (hsnapshot : (s.containers c).snapshot = r :: rest) :
    (s.update c ((s.containers c).start r rest .external)).Linked := by
  have hc : c < s.created := by
    by_contra hge
    rw [h.unused c (Nat.not_lt.mp hge)] at hphase
    cases hphase
  have hidle : (s.update c ((s.containers c).start r rest .external)).waitsFor c = none :=
    waitsFor_of_external (by rw [update_self]; rfl)
  refine h.update hc ⟨fun d hmem => h.made c d ?_, rfl, fun hlive => hlive,
    fun _ _ hcall => (by cases hcall), fun _ _ hcall => (by cases hcall)⟩
    fun a => ends_update h.ends hidle a
  rw [hsnapshot]
  rcases List.mem_append.mp hmem with hmem | hmem
  · exact List.mem_append_left _ hmem
  · exact List.mem_append_right _ (List.mem_cons_of_mem _ hmem)

theorem roleOfCall_waits {k : Container} (h : k.roleOfCall = .waits) : k.kind = .scope := by
  unfold Container.roleOfCall at h
  split at h
  · cases h
  · assumption
  · cases h

/-- Somebody who waits is being disposed of. -/
theorem AllLawful.not_waits (h : s.AllLawful) {c d : Nat} (hd : (s.containers d).phase ≠ .disposing)
    (hc : (s.containers c).phase = .disposing) : ¬ WaitGraph.Waits s.waitsFor d c := by
  have hawaiting : (s.containers d).awaiting = none := by
    cases hphase : (s.containers d).phase with
    | live => exact ((h d).live hphase).2.2.2.1
    | disposing => exact absurd hphase hd
    | disposed => exact ((h d).disposed hphase).2
  intro hwaits
  rcases Relation.ReflTransGen.cases_head hwaits with rfl | ⟨b, hb, -⟩
  · exact hd hc
  · rw [waitsFor_of_idle hawaiting] at hb
    cases hb

/-- The loop of `c` calls the container `d`. -/
theorem Linked.startContainer (h : s.Linked) (hlawful : s.AllLawful) {c d : Nat}
    {rest : List Resource} (hphase : (s.containers c).phase = .disposing)
    (hawaiting : (s.containers c).awaiting = none)
    (hsnapshot : (s.containers c).snapshot = .container d :: rest)
    (hapart : (s.containers d).kind = .scope → ¬ WaitGraph.Waits s.waitsFor d c) :
    ((s.callDispose d).update c (((s.callDispose d).containers c).start (.container d) rest
      (.call d (s.containers d).roleOfCall))).Linked := by
  have hc : c < s.created := by
    by_contra hge
    rw [h.unused c (Nat.not_lt.mp hge)] at hphase
    cases hphase
  have hd : d < s.created := h.made c d (by rw [hsnapshot]; simp)
  have hcalled := h.callDispose hd
  obtain ⟨hphase', hawaiting', hresources', hsnapshot'⟩ := callDispose_disposing d hphase
  have hnotlive : ((s.callDispose d).containers d).phase ≠ .live := by
    unfold Lifecycle.callDispose
    rw [update_self]
    exact dispose_ne_live _
  have hkind : ((s.callDispose d).containers d).kind = (s.containers d).kind := by
    unfold Lifecycle.callDispose Container.dispose
    rw [update_self]
    dsimp only
    split <;> rfl
  refine hcalled.update hc ⟨fun d' hmem => hcalled.made c d' ?_, rfl, fun hlive => hlive,
    fun d' role hcall => ?_, fun d' role hcall => ?_⟩ ?_
  · rw [hsnapshot', hsnapshot]
    rcases List.mem_append.mp hmem with hmem | hmem
    · exact List.mem_append_left _ hmem
    · exact List.mem_append_right _ (List.mem_cons_of_mem _ hmem)
  · cases hcall
    exact List.mem_append_right _ (List.mem_singleton_self _)
  · cases hcall
    refine ⟨?_, fun hwaits => hkind.trans (roleOfCall_waits hwaits)⟩
    split
    · rename_i heq
      exact heq ▸ hnotlive
    · exact hnotlive
  · -- the loop waits for `d`, or `d` has ended already
    have hidle : (s.callDispose d).waitsFor c = none :=
      waitsFor_of_idle (hawaiting'.trans hawaiting)
    have hnext : ((s.callDispose d).update c (((s.callDispose d).containers c).start (.container d)
        rest (.call d (s.containers d).roleOfCall))).waitsFor c = none ∨
        ((s.callDispose d).update c (((s.callDispose d).containers c).start (.container d)
          rest (.call d (s.containers d).roleOfCall))).waitsFor c = some d := by
      rw [waitsFor_of_call (d := d) (by rw [update_self]; rfl)]
      split
      · exact Or.inr rfl
      · exact Or.inl rfl
    rcases hnext with hnone | hsome
    · exact fun a => ends_update hcalled.ends hnone a
    · refine fun a =>
        (hcalled.ends a).join (hcalled.ends d) hsome (fun b hb => waitsFor_start hb) ?_
      · rw [show (s.callDispose d).waitsFor = s.waitsFor from funext (callDispose_waitsFor d)]
        cases hscope : (s.containers d).kind with
        | scope => exact hapart hscope
        | group =>
            -- a group that is closed returns at once
            obtain ⟨role, hcall, hpending⟩ := waitsFor_eq_some hsome
            rw [update_self] at hcall
            cases hcall
            refine hlawful.not_waits (fun hdisposing => ?_) hphase
            have hreturns : (s.containers d).roleOfCall = .returns := by
              unfold Container.roleOfCall
              rw [hdisposing, hscope]
            rw [hreturns] at hpending
            cases hpending

theorem Linked.iterate (h : s.Linked) (hlawful : s.AllLawful) {c : Nat}
    (hphase : (s.containers c).phase = .disposing) (hawaiting : (s.containers c).awaiting = none)
    (hcircles : s.NeverCircles (.iterate c)) : (s.iterate c).Linked := by
  unfold Lifecycle.iterate
  cases hsnapshot : (s.containers c).snapshot with
  | nil =>
      have hc : c < s.created := by
        by_contra hge
        rw [h.unused c (Nat.not_lt.mp hge)] at hphase
        cases hphase
      have hfinish : (s.containers c).finish.awaiting = none ∧
          (s.containers c).finish.phase = .disposed ∧
          (s.containers c).finish.kind = (s.containers c).kind ∧
          (s.containers c).finish.resources = (s.containers c).resources ∧
          (s.containers c).finish.snapshot = (s.containers c).snapshot := by
        unfold Container.finish
        split
        · exact ⟨hawaiting, rfl, rfl, rfl, rfl⟩
        · exact ⟨hawaiting, rfl, rfl, rfl, rfl⟩
      obtain ⟨hidle, hdisposed, hkind, hresources, hrest⟩ := hfinish
      have hnobody : (s.update c (s.containers c).finish).waitsFor c = none :=
        waitsFor_of_idle (by rw [update_self]; exact hidle)
      refine h.update hc ⟨fun d hmem => h.made c d ?_, hkind, fun hlive => ?_,
        fun d role hcall => ?_, fun d role hcall => ?_⟩ fun a => ends_update h.ends hnobody a
      · rw [hresources, hrest] at hmem
        exact hmem
      · rw [hdisposed] at hlive
        cases hlive
      · rw [hidle] at hcall
        cases hcall
      · rw [hidle] at hcall
        cases hcall
  | cons r rest =>
      cases r with
      | container d =>
          exact h.startContainer hlawful hphase hawaiting hsnapshot (hcircles d rest hsnapshot)
      | _ => exact h.startExternal hphase hsnapshot

theorem Linked.step (h : s.Linked) (hlawful : s.AllLawful) {e : Event} (hcircles : s.NeverCircles e)
    (hs : machine.step s e = some s') : s'.Linked := by
  cases e with
  | createScope name parent =>
      cases parent with
      | none => exact Option.some.inj hs ▸ h.create .scope name
      | some parent => exact h.createIn .scope hs
  | createSubscriptionGroup name scope => exact h.createIn .group hs
  | add c r =>
      obtain ⟨⟨hc, hr⟩, heq⟩ := Option.ite_none_right_eq_some.mp hs
      cases hadd : (s.containers c).add r with
      | error error =>
          rw [hadd] at heq
          exact Option.some.inj heq ▸ h
      | ok k =>
          rw [hadd] at heq
          exact Option.some.inj heq ▸ h.add hc hr hadd
  | dispose c =>
      obtain ⟨hc, heq⟩ := Option.ite_none_right_eq_some.mp hs
      exact Option.some.inj heq ▸ h.callDispose hc
  | iterate c =>
      obtain ⟨⟨hphase, hawaiting⟩, heq⟩ := Option.ite_none_right_eq_some.mp hs
      exact Option.some.inj heq ▸ h.iterate hlawful hphase hawaiting hcircles
  | settle c result =>
      obtain ⟨hawaiting, heq⟩ := Option.ite_none_right_eq_some.mp hs
      exact Option.some.inj heq ▸ h.record hawaiting result
  | resume c =>
      simp only [machine, Lifecycle.step] at hs
      cases hawaiting : (s.containers c).awaiting with
      | none => rw [hawaiting] at hs; cases hs
      | some awaited =>
          rw [hawaiting] at hs
          cases awaited with
          | external => cases hs
          | call d role =>
              dsimp only at hs
              split at hs
              · cases hs
              · exact Option.some.inj hs ▸ h.record hawaiting none
              · exact Option.some.inj hs ▸ h.record hawaiting _

/-! ### Nobody waits for ever -/

/-- Once a container is disposed, every call of it has returned. -/
theorem AllLawful.disposing_of_pending (h : s.AllLawful) (hlinked : s.Linked) {c d : Nat}
    (hwaits : s.waitsFor c = some d) : (s.containers d).phase = .disposing := by
  obtain ⟨role, hawaiting, hpending⟩ := waitsFor_eq_some hwaits
  obtain ⟨hnotlive, hscope⟩ := hlinked.called c d role hawaiting
  cases hphase : (s.containers d).phase with
  | live => exact absurd hphase hnotlive
  | disposing => rfl
  | disposed =>
      have hreturned : ∀ errors, Container.firstError errors ≠ .pending := by
        intro errors
        cases errors <;> exact fun heq => by cases heq
      cases role with
      | runs =>
          rw [Container.outcome, if_pos hphase] at hpending
          split at hpending
          · cases hpending
          · exact absurd hpending (hreturned _)
      | waits =>
          rw [Container.outcome, (h d).completion (hscope rfl), if_pos hphase] at hpending
          exact absurd hpending (hreturned _)
      | returns => cases hpending

/-- A loop that waits for no call still pending: it can go on, or a disposal outside is awaited. -/
theorem canGoOn_of_waitsFor_eq_none {c : Nat} (hphase : (s.containers c).phase = .disposing)
    (hnone : s.waitsFor c = none) : s.CanGoOn c := by
  cases hawaiting : (s.containers c).awaiting with
  | none =>
      refine Or.inl ?_
      rw [step, if_pos ⟨hphase, hawaiting⟩]
      rfl
  | some awaited =>
      cases awaited with
      | external =>
          refine Or.inr (Or.inl ?_)
          rw [step, if_pos hawaiting]
          rfl
      | call d role =>
          refine Or.inr (Or.inr ?_)
          rw [waitsFor_of_call hawaiting] at hnone
          unfold step
          simp only [hawaiting]
          cases houtcome : (s.containers d).outcome role with
          | pending =>
              rw [houtcome, if_pos rfl] at hnone
              cases hnone
          | resolved => rfl
          | rejected error => rfl

theorem CanGoOn.waitsFor_eq_none {c : Nat} (h : s.CanGoOn c) : s.waitsFor c = none := by
  rcases h with hiterate | hsettle | hresume
  · obtain ⟨s', hs⟩ := Option.isSome_iff_exists.mp hiterate
    obtain ⟨⟨-, hidle⟩, -⟩ := Option.ite_none_right_eq_some.mp hs
    exact waitsFor_of_idle hidle
  · obtain ⟨s', hs⟩ := Option.isSome_iff_exists.mp hsettle
    obtain ⟨hexternal, -⟩ := Option.ite_none_right_eq_some.mp hs
    exact waitsFor_of_external hexternal
  · cases hnext : s.waitsFor c with
    | none => rfl
    | some d =>
        obtain ⟨role, hawaiting, hpending⟩ := waitsFor_eq_some hnext
        simp only [step, hawaiting, hpending] at hresume
        cases hresume

theorem AllLawful.noDeadlock (h : s.AllLawful) (hlinked : s.Linked) {c : Nat}
    (hphase : (s.containers c).phase = .disposing) :
    ∃ d, WaitGraph.Waits s.waitsFor c d ∧ s.CanGoOn d := by
  obtain ⟨d, hwaits, hnone⟩ := (hlinked.ends c).exists_last
  refine ⟨d, hwaits, canGoOn_of_waitsFor_eq_none ?_ hnone⟩
  -- everybody on the chain is being disposed of
  clear hnone
  induction hwaits with
  | refl => exact hphase
  | tail _ hlast _ => exact h.disposing_of_pending hlinked hlast

theorem AllLawful.disposes (h : s.AllLawful) (hlinked : s.Linked) : s.Disposes where
  inOrder := fun c => (h c).disposesInOrder
  sameOutcome := fun c => (h c).sameOutcome
  noDeadlock := fun _ hphase => h.noDeadlock hlinked hphase

/-- A scope that comes to the end of its loop with an error: the call that ran the loop returns
normally. -/
theorem AllLawful.breaks_of_failed (h : s.AllLawful) {e : Event} (hfailed : ¬ s.FailsNone e)
    (hs : machine.step s e = some s') : ¬ s'.Disposes := by
  cases e with
  | iterate c =>
      obtain ⟨⟨hphase, -⟩, heq⟩ := Option.ite_none_right_eq_some.mp hs
      obtain rfl := Option.some.inj heq
      obtain ⟨hscope, hrest⟩ := Classical.not_imp.mp hfailed
      obtain ⟨hsnapshot, hresults⟩ := Classical.not_imp.mp hrest
      intro hdisposes
      have hlast : (s.iterate c).containers c = (s.containers c).finish := by
        rw [Lifecycle.iterate, hsnapshot]
        exact update_self ..
      have hruns := ((h c).begun (by rw [hphase]; decide)).1
      have hsame := hdisposes.sameOutcome c
      rw [hlast, Container.finish, hscope] at hsame
      have houtcome : Completion.resolved = Container.firstFailure (s.containers c).results :=
        hsame rfl .runs hruns
      rw [Container.firstFailure, ← (h c).errors] at houtcome
      cases hfirst : (s.containers c).errors with
      | nil => exact hresults ((h c).errors_eq_nil_iff.mp hfirst)
      | cons error others =>
          rw [hfirst] at houtcome
          cases houtcome
  | _ => exact absurd trivial hfailed

/-- A loop that comes to a scope that waits for it: neither goes on any more. -/
theorem AllLawful.breaks_of_circle (h : s.AllLawful) {e : Event} (hcircle : ¬ s.NeverCircles e)
    (hs : machine.step s e = some s') : ¬ s'.Disposes := by
  cases e with
  | iterate c =>
      obtain ⟨⟨hphase, -⟩, heq⟩ := Option.ite_none_right_eq_some.mp hs
      obtain rfl := Option.some.inj heq
      unfold NeverCircles at hcircle
      push Not at hcircle
      obtain ⟨d, rest, hsnapshot, hscope, hback⟩ := hcircle
      have hdisposing : (s.containers d).phase = .disposing := by
        by_contra hnot
        exact h.not_waits hnot hphase hback
      have hwaits : (s.containers d).roleOfCall = .waits := by
        unfold Container.roleOfCall
        rw [hdisposing, hscope]
      have hpending : (s.containers d).completion = .pending := by
        rw [(h d).completion hscope, hdisposing]
        rfl
      rw [Lifecycle.iterate, hsnapshot]
      dsimp only
      rw [hwaits]
      -- the loop waits for `d`, and `d`, as before, for the loop
      have hjoined : ((s.callDispose d).update c (((s.callDispose d).containers c).start
          (.container d) rest (.call d .waits))).waitsFor c = some d := by
        rw [waitsFor_of_call (d := d) (by rw [update_self]; rfl), if_pos]
        have hstill : ((s.callDispose d).containers d).completion = .pending := by
          unfold Lifecycle.callDispose
          rw [update_self, Container.dispose_of_begun (by rw [hdisposing]; decide)]
          exact hpending
        by_cases hd : d = c
        · subst hd
          rw [update_self]
          exact hstill
        · rw [update_of_ne _ _ hd]
          exact hstill
      have hothers : ∀ a, a ≠ c →
          ((s.callDispose d).update c (((s.callDispose d).containers c).start (.container d) rest
            (.call d .waits))).waitsFor a = s.waitsFor a := by
        intro a ha
        rw [waitsFor_start ha, callDispose_waitsFor]
      intro hdisposes
      obtain ⟨last, hchain, hgoes⟩ := hdisposes.noDeadlock c (by
        rw [update_self]
        exact (callDispose_disposing d hphase).1)
      exact WaitGraph.ne_none_of_circle hjoined (hback.of_others hothers) hchain
        hgoes.waitsFor_eq_none
  | _ => exact absurd trivial hcircle

/-! ### Containers that do not contain themselves -/

/-- `t` has the containers of `s`, with what has been added to them. -/
def Grows (s t : Lifecycle) : Prop :=
  s.created ≤ t.created ∧
    ∀ a < s.created, ∀ r ∈ (s.containers a).added, r ∈ (t.containers a).added

theorem Grows.refl (s : Lifecycle) : s.Grows s := ⟨Nat.le_refl _, fun _ _ _ hmem => hmem⟩

theorem Grows.trans {t u : Lifecycle} (h : s.Grows t) (h' : t.Grows u) : s.Grows u :=
  ⟨Nat.le_trans h.1 h'.1, fun a ha r hmem => h'.2 a (Nat.lt_of_lt_of_le ha h.1) r (h.2 a ha r hmem)⟩

theorem grows_update {c : Nat} {k : Container}
    (hk : ∀ r ∈ (s.containers c).added, r ∈ k.added) : s.Grows (s.update c k) := by
  refine ⟨Nat.le_refl _, fun a _ r hmem => ?_⟩
  by_cases ha : a = c
  · subst ha
    rw [update_self]
    exact hk r hmem
  · rw [update_of_ne _ _ ha]
    exact hmem

theorem grows_create (k : Container) : s.Grows (s.create k) := by
  refine ⟨Nat.le_succ _, fun a ha r hmem => ?_⟩
  rw [show (s.create k).containers a = s.containers a from update_of_ne _ _ (Nat.ne_of_lt ha)]
  exact hmem

theorem grows_add {c : Nat} {k : Container} {r : Resource} (hadd : (s.containers c).add r = .ok k) :
    s.Grows (s.update c k) := by
  unfold Container.add at hadd
  split at hadd
  · cases hadd
  · obtain rfl := Except.ok.inj hadd
    exact grows_update fun _ hmem => List.mem_append_left _ hmem

theorem grows_callDispose (c : Nat) : s.Grows (s.callDispose c) := by
  refine grows_update fun r hmem => ?_
  unfold Container.dispose
  dsimp only
  split <;> exact hmem

theorem grows_createIn {k : Container} {parent : Nat} (hs : s.createIn k parent = some s') :
    s.Grows s' := by
  obtain ⟨-, heq⟩ := Option.ite_none_right_eq_some.mp hs
  cases hadd : (s.containers parent).add (.container s.created) with
  | error error =>
      rw [hadd] at heq
      exact Option.some.inj heq ▸ .refl s
  | ok parent' =>
      rw [hadd] at heq
      exact Option.some.inj heq ▸ (grows_add hadd).trans (grows_create k)

theorem grows_iterate (c : Nat) : s.Grows (s.iterate c) := by
  unfold Lifecycle.iterate
  split
  · refine grows_update fun r hmem => ?_
    unfold Container.finish
    split <;> exact hmem
  · rename_i d rest _
    exact (grows_callDispose d).trans (grows_update fun _ hmem => hmem)
  · exact grows_update fun _ hmem => hmem

theorem grows_record (c : Nat) (result : Option Thrown) :
    s.Grows (s.update c ((s.containers c).record result)) := grows_update fun _ hmem => hmem

/-- What has been added stays. -/
theorem grows_step {e : Event} (hs : machine.step s e = some s') : s.Grows s' := by
  cases e with
  | createScope name parent =>
      cases parent with
      | none => exact Option.some.inj hs ▸ grows_create _
      | some parent => exact grows_createIn hs
  | createSubscriptionGroup name scope => exact grows_createIn hs
  | add c r =>
      obtain ⟨-, heq⟩ := Option.ite_none_right_eq_some.mp hs
      cases hadd : (s.containers c).add r with
      | error error =>
          rw [hadd] at heq
          exact Option.some.inj heq ▸ .refl s
      | ok k =>
          rw [hadd] at heq
          exact Option.some.inj heq ▸ grows_add hadd
  | dispose c =>
      obtain ⟨-, heq⟩ := Option.ite_none_right_eq_some.mp hs
      exact Option.some.inj heq ▸ grows_callDispose c
  | iterate c =>
      obtain ⟨-, heq⟩ := Option.ite_none_right_eq_some.mp hs
      exact Option.some.inj heq ▸ grows_iterate c
  | settle c result =>
      obtain ⟨-, heq⟩ := Option.ite_none_right_eq_some.mp hs
      exact Option.some.inj heq ▸ grows_record c result
  | resume c =>
      simp only [machine, Lifecycle.step] at hs
      split at hs
      · split at hs
        · cases hs
        · exact Option.some.inj hs ▸ grows_record c none
        · exact Option.some.inj hs ▸ grows_record c _
      · cases hs

theorem grows_runFrom {t : Lifecycle} {es : List Event} (hs : machine.runFrom s es = some t) :
    s.Grows t :=
  Machine.invariant (I := s.Grows) (.refl s) (fun _ _ _ h hstep => h.trans (grows_step hstep)) hs

/-- No container contains itself through others: every one stands above what it contains. -/
def Nested (s : Lifecycle) : Prop :=
  ∃ rank : Nat → Nat, ∀ c d, .container d ∈ (s.containers c).added → rank d < rank c

/-- Each loop waits for one below it. -/
theorem neverCircles_of_rank (h : s.AllLawful) (hlinked : s.Linked) {e : Event}
    (hs : machine.step s e = some s') {rank : Nat → Nat}
    (hrank : ∀ c d, c < s.created → .container d ∈ (s.containers c).added → rank d < rank c) :
    s.NeverCircles e := by
  cases e with
  | iterate c =>
      obtain ⟨⟨hphase, -⟩, -⟩ := Option.ite_none_right_eq_some.mp hs
      have hmade : ∀ a, (s.containers a).phase ≠ .live → a < s.created := by
        intro a hnotlive
        by_contra hge
        rw [hlinked.unused a (Nat.not_lt.mp hge)] at hnotlive
        exact hnotlive rfl
      have hadded : ∀ a b, .container b ∈ (s.containers a).started ++ (s.containers a).snapshot →
          (s.containers a).phase ≠ .live → rank b < rank a := by
        intro a b hmem hnotlive
        rw [((h a).begun hnotlive).2] at hmem
        exact hrank a b (hmade a hnotlive) (List.mem_reverse.mp hmem)
      have hwaits : ∀ a b, s.waitsFor a = some b → rank b < rank a := by
        intro a b hab
        obtain ⟨role, hawaiting, -⟩ := waitsFor_eq_some hab
        refine hadded a b (List.mem_append_left _ (hlinked.started a b role hawaiting)) ?_
        intro hlive
        rw [((h a).live hlive).2.2.2.1] at hawaiting
        cases hawaiting
      intro d rest hsnapshot _ hback
      have hbelow : rank d < rank c := by
        refine hadded c d (List.mem_append_right _ ?_) (by rw [hphase]; decide)
        rw [hsnapshot]
        exact List.mem_cons_self
      exact absurd (hback.rank_le hwaits) (Nat.not_le.mpr hbelow)
  | _ => trivial

theorem guarded_endsWell {t : Lifecycle} (hnested : t.Nested) {es : List Event} (h : s.AllLawful)
    (hlinked : s.Linked) (hrun : machine.runFrom s es = some t)
    (hclean : machine.Guarded FailsNone s es) : machine.Guarded EndsWell s es := by
  obtain ⟨rank, hrank⟩ := hnested
  induction es generalizing s with
  | nil => trivial
  | cons e es ih =>
      obtain ⟨s', hstep, hrest⟩ := Machine.runFrom_cons.mp hrun
      have hcircles : s.NeverCircles e :=
        neverCircles_of_rank h hlinked hstep fun c d hc hmem =>
          hrank c d ((grows_runFrom hrun).2 c hc _ hmem)
      refine ⟨⟨hclean.1, hcircles⟩, fun s'' hs'' => ?_⟩
      obtain rfl := Option.some.inj (hstep.symm.trans hs'')
      exact ih (h.step hclean.1 hstep) (hlinked.step h hcircles hstep) hrest (hclean.2 _ hstep)

/-! ### The main result -/

/-- **Disposal.** Every container disposes of its resources as it should, none waits for ever, and
every call of `dispose` sees the first failure, in each state of a run, exactly when no scope of the
run comes to the end of its loop with a failure and no loop comes to a scope that waits for it. The
second cannot happen where no container contains itself through others. -/
theorem disposes_throughout_iff (es : List Event) (t : Lifecycle) (hrun : machine.run es = some t) :
    (machine.Throughout Disposes machine.init es ↔ machine.Guarded EndsWell machine.init es) ∧
      (t.Nested →
        (machine.Guarded EndsWell machine.init es ↔
          machine.Guarded FailsNone machine.init es)) := by
  constructor
  · refine Machine.throughout_iff_guarded_of_invariant (I := fun s => s.AllLawful ∧ s.Linked)
      (fun _ h => h.1.disposes h.2)
      (fun _ _ _ h hwell hs => ⟨h.1.step hwell.1 hs, h.2.step h.1 hwell.2 hs⟩)
      (fun s e s' h hnot hs => ?_) ⟨allLawful_init, linked_init⟩ hrun
    by_cases hfails : s.FailsNone e
    · exact h.1.breaks_of_circle (fun hcircles => hnot ⟨hfails, hcircles⟩) hs
    · exact h.1.breaks_of_failed hfails hs
  · intro hnested
    exact ⟨fun h => h.mono fun _ _ hwell => hwell.1,
      fun h => guarded_endsWell hnested allLawful_init linked_init hrun h⟩

/-- A scope with a child and a group; the child is disposed of by its parent, and meanwhile by
somebody else. -/
private def nestedRun : List Event :=
  [.createScope "parent" none, .createScope "child" (some 0), .createSubscriptionGroup "group" 0,
    .add 1 (.function 5), .add 2 (.subscription 6), .dispose 0, .iterate 0, .iterate 2,
    .settle 2 none, .iterate 2, .resume 0, .iterate 0, .dispose 1, .iterate 1, .settle 1 none,
    .iterate 1, .resume 0, .iterate 0]

theorem disposes_throughout_nestedRun : ∃ t, machine.run nestedRun = some t ∧
    (machine.Throughout Disposes machine.init nestedRun ↔
      machine.Guarded EndsWell machine.init nestedRun) := by
  obtain ⟨t, ht⟩ := Option.isSome_iff_exists.mp (show (machine.run nestedRun).isSome by decide)
  exact ⟨t, ht, (disposes_throughout_iff nestedRun t ht).1⟩

/-- The only resource of a scope throws, and `dispose` returns normally. -/
theorem disposes_fails : ¬ ∀ es s, machine.run es = some s → s.Disposes := by
  intro h
  let es : List Event := [.createScope "scope" none, .add 0 (.function 5), .dispose 0, .iterate 0,
    .settle 0 (some (.error "Error" 1)), .iterate 0]
  obtain ⟨s, hs, hscope, hruns, houtcome, hexpected⟩ : ∃ s, machine.run es = some s ∧
      (s.containers 0).kind = .scope ∧ .runs ∈ (s.containers 0).calls ∧
      (s.containers 0).outcome .runs = .resolved ∧
      (if (s.containers 0).phase = .disposed then
        Container.firstFailure (s.containers 0).results else .pending) =
        .rejected (.error "Error" 1) := ⟨_, rfl, by decide, by decide, by decide, by decide⟩
  have hsame := (h es s hs).sameOutcome 0 hscope .runs hruns
  rw [houtcome, hexpected] at hsame
  cases hsame

end Lifecycle

end FitzTs.Core
