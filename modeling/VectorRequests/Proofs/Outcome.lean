/-
# What a walk of outcomes has done

A chain of steps succeeds if every step does, and then each result is known; it ends in
an error at the first step that does not succeed. The same is said of a walk over a list:
a walk succeeds with one result for each item, and it fails at an item all of whose
predecessors succeed. Where every step fails only in certain ways, so does the whole. Where it
is known when an outcome succeeds, what holds of its results can be asked of one of them.
-/

import VectorRequests.Error
import Mathlib.Data.List.Forall2

namespace VectorRequests

/-- Items that can be chosen one by one can be chosen together. -/
theorem exists_forall₂ {α β : Type} {R : α → β → Prop} {xs : List α}
    (h : ∀ x ∈ xs, ∃ y, R x y) : ∃ ys, List.Forall₂ R xs ys := by
  induction xs with
  | nil => exact ⟨[], .nil⟩
  | cons x xs ih =>
      obtain ⟨⟨y, hy⟩, hxs⟩ := List.forall_mem_cons.mp h
      obtain ⟨ys, hys⟩ := ih hxs
      exact ⟨y :: ys, .cons hy hys⟩

/-- What holds of all results of a walk is found at each item. -/
theorem exists_of_forall₂ {α β : Type} {R : α → β → Prop} {p : β → Prop} {xs : List α}
    {ys : List β} (h : List.Forall₂ R xs ys) (hp : ∀ y ∈ ys, p y) :
    ∀ x ∈ xs, ∃ y, R x y ∧ p y := by
  induction h with
  | nil => simp
  | cons hhead _ ih =>
      obtain ⟨hy, hys⟩ := List.forall_mem_cons.mp hp
      exact List.forall_mem_cons.mpr ⟨⟨_, hhead, hy⟩, ih hys⟩

/-- What corresponds to the same list in two ways. -/
theorem forall₂_transfer {α β γ : Type} {R : α → β → Prop} {S : α → γ → Prop} {T : β → γ → Prop}
    {xs : List α} {ys : List β} {zs : List γ} (hR : List.Forall₂ R xs ys)
    (hS : List.Forall₂ S xs zs) (h : ∀ x y z, z ∈ zs → R x y → S x z → T y z) :
    List.Forall₂ T ys zs := by
  induction hR generalizing zs with
  | nil =>
      cases hS
      exact .nil
  | cons hhead _ ih =>
      cases hS with
      | cons hfirst hrest =>
          refine .cons (h _ _ _ (List.mem_cons_self ..) hhead hfirst) (ih hrest ?_)
          intro x y z hz
          exact h x y z (List.mem_cons_of_mem _ hz)

theorem map_eq_map_of_forall₂ {α β γ : Type} {f : α → γ} {g : β → γ} {xs : List α} {ys : List β}
    (h : List.Forall₂ (fun x y => f x = g y) xs ys) : xs.map f = ys.map g := by
  induction h with
  | nil => rfl
  | cons hhead _ ih => rw [List.map_cons, List.map_cons, hhead, ih]

/-- A walk in search of results finds all of them or none. -/
theorem mapM_eq_some_iff {α β : Type} {f : α → Option β} {xs : List α} {ys : List β} :
    xs.mapM f = some ys ↔ List.Forall₂ (fun x y => f x = some y) xs ys := by
  induction xs generalizing ys with
  | nil =>
      rw [List.mapM_nil, List.forall₂_nil_left_iff]
      simp [eq_comm]
  | cons x xs ih =>
      rw [List.mapM_cons, Option.bind_eq_bind, Option.bind_eq_some_iff,
        List.forall₂_cons_left_iff]
      constructor
      · rintro ⟨y, hy, hrest⟩
        obtain ⟨rest, hwalk, hys⟩ := Option.bind_eq_some_iff.mp hrest
        cases hys
        exact ⟨y, rest, hy, ih.mp hwalk, rfl⟩
      · rintro ⟨y, rest, hy, hwalk, rfl⟩
        exact ⟨y, hy, Option.bind_eq_some_iff.mpr ⟨rest, ih.mpr hwalk, rfl⟩⟩

namespace Outcome

variable {α β : Type}

theorem bind_eq_ok {x : Outcome α} {f : α → Outcome β} {b : β} :
    (x >>= f) = .ok b ↔ ∃ a, x = .ok a ∧ f a = .ok b := by
  cases x with
  | error e => simp [bind, Except.bind]
  | ok a => simp [bind, Except.bind]

theorem bind_eq_error {x : Outcome α} {f : α → Outcome β} {e : Error} :
    (x >>= f) = .error e ↔ x = .error e ∨ ∃ a, x = .ok a ∧ f a = .error e := by
  cases x with
  | error e' => simp [bind, Except.bind]
  | ok a => simp [bind, Except.bind]

/-- A chain succeeds if its first part does, and then what follows. -/
theorem exists_bind_eq_ok {x : Outcome α} {f : α → Outcome β} :
    (∃ b, (x >>= f) = .ok b) ↔ ∃ a, x = .ok a ∧ ∃ b, f a = .ok b := by
  simp only [bind_eq_ok]
  constructor
  · rintro ⟨b, a, hx, hf⟩
    exact ⟨a, hx, b, hf⟩
  · rintro ⟨a, hx, b, hf⟩
    exact ⟨b, a, hx, hf⟩

/-- A check that comes first. -/
theorem check_bind_eq_error {x : Outcome Unit} {y : Outcome β} {e : Error} :
    (x >>= fun _ => y) = .error e ↔ x = .error e ∨ (x = .ok () ∧ y = .error e) := by
  rw [bind_eq_error]
  constructor
  · rintro (hx | ⟨⟨⟩, hx, hy⟩)
    · exact .inl hx
    · exact .inr ⟨hx, hy⟩
  · rintro (hx | ⟨hx, hy⟩)
    · exact .inl hx
    · exact .inr ⟨(), hx, hy⟩

@[simp]
theorem ok_bind (a : α) (f : α → Outcome β) : ((.ok a : Outcome α) >>= f) = f a := rfl

@[simp]
theorem pure_eq_ok (a : α) : (pure a : Outcome α) = .ok a := rfl

/-- A walk succeeds exactly when each item has its own result. -/
theorem mapM_eq_ok_iff {f : α → Outcome β} {xs : List α} {ys : List β} :
    xs.mapM f = .ok ys ↔ List.Forall₂ (fun x y => f x = .ok y) xs ys := by
  induction xs generalizing ys with
  | nil =>
      rw [List.mapM_nil, List.forall₂_nil_left_iff]
      simp [eq_comm]
  | cons x xs ih =>
      rw [List.mapM_cons, bind_eq_ok, List.forall₂_cons_left_iff]
      constructor
      · rintro ⟨y, hy, hrest⟩
        obtain ⟨rest, hwalk, hys⟩ := bind_eq_ok.mp hrest
        cases hys
        exact ⟨y, rest, hy, ih.mp hwalk, rfl⟩
      · rintro ⟨y, rest, hy, hwalk, rfl⟩
        exact ⟨y, hy, bind_eq_ok.mpr ⟨rest, ih.mpr hwalk, rfl⟩⟩

theorem exists_mapM_eq_ok_iff {f : α → Outcome β} {xs : List α} :
    (∃ ys, xs.mapM f = .ok ys) ↔ ∀ x ∈ xs, ∃ y, f x = .ok y := by
  constructor
  · rintro ⟨ys, hys⟩ x hx
    obtain ⟨y, hy, -⟩ := exists_of_forall₂ (mapM_eq_ok_iff.mp hys) (fun _ _ => trivial) x hx
    exact ⟨y, hy⟩
  · intro hall
    obtain ⟨ys, hys⟩ := exists_forall₂ hall
    exact ⟨ys, mapM_eq_ok_iff.mpr hys⟩

/-- A walk depends on what its step makes of the items. -/
theorem mapM_congr {f g : α → Outcome β} {xs : List α} (h : ∀ x ∈ xs, f x = g x) :
    xs.mapM f = xs.mapM g := by
  induction xs with
  | nil => rfl
  | cons x xs ih =>
      obtain ⟨hx, hxs⟩ := List.forall_mem_cons.mp h
      rw [List.mapM_cons, List.mapM_cons, hx, ih hxs]

/-- A walk for its checks alone succeeds exactly when every item passes. -/
theorem forM_eq_ok_iff {f : α → Outcome Unit} {xs : List α} :
    xs.forM f = .ok () ↔ ∀ x ∈ xs, f x = .ok () := by
  induction xs with
  | nil => simp
  | cons x xs ih =>
      show (f x >>= fun _ => xs.forM f) = .ok () ↔ _
      rw [bind_eq_ok, List.forall_mem_cons]
      constructor
      · rintro ⟨⟨⟩, hx, hrest⟩
        exact ⟨hx, ih.mp hrest⟩
      · rintro ⟨hx, hrest⟩
        exact ⟨(), hx, ih.mpr hrest⟩

/-- A walk fails at the first item that does. -/
theorem mapM_eq_error_iff {f : α → Outcome β} {xs : List α} {e : Error} :
    xs.mapM f = .error e ↔
      ∃ before x after, xs = before ++ x :: after ∧
        (∀ y ∈ before, ∃ z, f y = .ok z) ∧ f x = .error e := by
  induction xs with
  | nil => simp
  | cons x xs ih =>
      rw [List.mapM_cons, bind_eq_error]
      constructor
      · rintro (hx | ⟨y, hy, hrest⟩)
        · exact ⟨[], x, xs, rfl, by simp, hx⟩
        · obtain hwalk | ⟨ys, _, hys⟩ := bind_eq_error.mp hrest
          · obtain ⟨before, w, after, rfl, hbefore, hw⟩ := ih.mp hwalk
            refine ⟨x :: before, w, after, rfl, ?_, hw⟩
            exact List.forall_mem_cons.mpr ⟨⟨y, hy⟩, hbefore⟩
          · cases hys
      · rintro ⟨before, w, after, hsplit, hbefore, hw⟩
        cases before with
        | nil =>
            obtain ⟨rfl, rfl⟩ := List.cons.inj hsplit
            exact .inl hw
        | cons v before =>
            obtain ⟨rfl, rfl⟩ := List.cons.inj hsplit
            obtain ⟨⟨z, hz⟩, hbefore⟩ := List.forall_mem_cons.mp hbefore
            refine .inr ⟨z, hz, bind_eq_error.mpr (.inl ?_)⟩
            exact ih.mpr ⟨before, w, after, rfl, hbefore, hw⟩

/-- A walk for its checks alone fails at the first item that does not pass. -/
theorem forM_eq_error_iff {f : α → Outcome Unit} {xs : List α} {e : Error} :
    xs.forM f = .error e ↔
      ∃ before x after, xs = before ++ x :: after ∧ (∀ y ∈ before, f y = .ok ()) ∧
        f x = .error e := by
  induction xs with
  | nil => simp
  | cons x xs ih =>
      show (f x >>= fun _ => xs.forM f) = .error e ↔ _
      rw [check_bind_eq_error]
      constructor
      · rintro (hx | ⟨hx, hrest⟩)
        · exact ⟨[], x, xs, rfl, by simp, hx⟩
        · obtain ⟨before, w, after, rfl, hbefore, hw⟩ := ih.mp hrest
          exact ⟨x :: before, w, after, rfl, List.forall_mem_cons.mpr ⟨hx, hbefore⟩, hw⟩
      · rintro ⟨before, w, after, hsplit, hbefore, hw⟩
        cases before with
        | nil =>
            obtain ⟨rfl, rfl⟩ := List.cons.inj hsplit
            exact .inl hw
        | cons v before =>
            obtain ⟨rfl, rfl⟩ := List.cons.inj hsplit
            obtain ⟨hv, hbefore⟩ := List.forall_mem_cons.mp hbefore
            exact .inr ⟨hv, ih.mpr ⟨before, w, after, rfl, hbefore, hw⟩⟩

/-! ## Outcomes of which it is known when they succeed -/

/-- An outcome succeeds in one case only, and then with a result of which something holds. -/
structure SucceedsWhen (x : Outcome α) (taken : Prop) (p : α → Prop) : Prop where
  ok : taken → ∃ a, x = .ok a ∧ p a
  error : ¬ taken → ∃ e, x = .error e

namespace SucceedsWhen

variable {x : Outcome α} {taken : Prop} {p : α → Prop}

theorem exists_iff (h : x.SucceedsWhen taken p) : (∃ a, x = .ok a) ↔ taken := by
  constructor
  · rintro ⟨a, ha⟩
    by_contra hrest
    obtain ⟨e, he⟩ := h.error hrest
    cases ha.symm.trans he
  · intro htaken
    obtain ⟨a, ha, -⟩ := h.ok htaken
    exact ⟨a, ha⟩

theorem of_eq_ok (h : x.SucceedsWhen taken p) {a : α} (ha : x = .ok a) : p a := by
  obtain ⟨b, hb, hp⟩ := h.ok (h.exists_iff.mp ⟨a, ha⟩)
  cases ha.symm.trans hb
  exact hp

/-- Something more holds of every result if it holds whenever there is one. -/
theorem forall_iff (h : x.SucceedsWhen taken p) {q : α → Prop} {r : Prop}
    (hqr : ∀ a, p a → (q a ↔ r)) : (∀ a, x = .ok a → q a) ↔ (taken → r) := by
  constructor
  · intro hall htaken
    obtain ⟨a, ha, hp⟩ := h.ok htaken
    exact (hqr a hp).mp (hall a ha)
  · intro hr a ha
    exact (hqr a (h.of_eq_ok ha)).mpr (hr (h.exists_iff.mp ⟨a, ha⟩))

end SucceedsWhen

/-! ## Ways to fail -/

/-- Every error that an outcome can be has a property. -/
def FailsOnly (P : Error → Prop) (x : Outcome α) : Prop :=
  ∀ e, x = .error e → P e

variable {P : Error → Prop}

theorem failsOnly_ok (a : α) : FailsOnly P (.ok a : Outcome α) := nofun

theorem failsOnly_error {e : Error} (h : P e) : FailsOnly P (.error e : Outcome α) := by
  rintro _ ⟨⟩
  exact h

theorem FailsOnly.mono {Q : Error → Prop} {x : Outcome α} (h : FailsOnly P x)
    (hPQ : ∀ e, P e → Q e) : FailsOnly Q x :=
  fun e he => hPQ e (h e he)

theorem FailsOnly.bind {x : Outcome α} {f : α → Outcome β} (hx : FailsOnly P x)
    (hf : ∀ a, x = .ok a → FailsOnly P (f a)) : FailsOnly P (x >>= f) := by
  intro e he
  obtain hfirst | ⟨a, ha, hrest⟩ := bind_eq_error.mp he
  · exact hx e hfirst
  · exact hf a ha e hrest

/-- An outcome fails in every way but one if it is not that error. -/
theorem failsOnly_ne_iff {x : Outcome α} {e : Error} :
    FailsOnly (· ≠ e) x ↔ x ≠ .error e := by
  constructor
  · intro hnever he
    exact hnever e he rfl
  · rintro hne e' he' rfl
    exact hne he'

theorem discard_eq_ok_iff {x : Outcome α} :
    (discard x : Outcome Unit) = .ok () ↔ ∃ a, x = .ok a := by
  cases x with
  | ok a => exact iff_of_true rfl ⟨a, rfl⟩
  | error e => exact iff_of_false nofun nofun

/-- A discarded result leaves the error. -/
theorem discard_eq_error_iff {x : Outcome α} {e : Error} :
    (discard x : Outcome Unit) = .error e ↔ x = .error e := by
  cases x with
  | ok a => exact iff_of_false nofun nofun
  | error e' =>
      show Except.error e' = .error e ↔ _
      simp

theorem failsOnly_discard {x : Outcome α} (hx : FailsOnly P x) : FailsOnly P (discard x) := by
  intro e he
  exact hx e (discard_eq_error_iff.mp he)

theorem failsOnly_mapM {f : α → Outcome β} {xs : List α} (h : ∀ x ∈ xs, FailsOnly P (f x)) :
    FailsOnly P (xs.mapM f) := by
  intro e he
  obtain ⟨before, x, after, rfl, -, hx⟩ := mapM_eq_error_iff.mp he
  exact h x (by simp) e hx

theorem failsOnly_forM {f : α → Outcome Unit} {xs : List α} (h : ∀ x ∈ xs, FailsOnly P (f x)) :
    FailsOnly P (xs.forM f) := by
  induction xs with
  | nil => exact failsOnly_ok ()
  | cons x xs ih =>
      obtain ⟨hx, hxs⟩ := List.forall_mem_cons.mp h
      exact hx.bind fun _ _ => ih hxs

/-! ## Refusals -/

/-- An outcome that refuses a parameter. -/
def IsRefused (x : Outcome α) : Prop :=
  ∃ fault field, x = .error (.refused fault field)

/-- An outcome that can only fail by refusing a parameter. -/
def Refuses (x : Outcome α) : Prop :=
  x.FailsOnly fun e => ∃ fault field, e = .refused fault field

theorem isRefused_refuse (fault : ParamFault) : (Error.refuse fault : Outcome α).IsRefused :=
  ⟨fault, .null, rfl⟩

theorem refuses_ok (a : α) : Refuses (.ok a : Outcome α) :=
  failsOnly_ok a

theorem refuses_refuse (fault : ParamFault) : (Error.refuse fault : Outcome α).Refuses :=
  failsOnly_error ⟨fault, .null, rfl⟩

theorem Refuses.isRefused {x : Outcome α} (hx : x.Refuses) (hfails : ¬ ∃ a, x = .ok a) :
    x.IsRefused := by
  cases x with
  | ok a => exact absurd ⟨a, rfl⟩ hfails
  | error e =>
      obtain ⟨fault, field, rfl⟩ := hx e rfl
      exact ⟨fault, field, rfl⟩

/-- A chain is refused if its first part is, or if what follows is. -/
theorem Refuses.isRefused_bind {x : Outcome α} {f : α → Outcome β} (hx : x.Refuses)
    (hf : ∀ a, x = .ok a → (f a).IsRefused) : (x >>= f).IsRefused := by
  cases x with
  | ok a => exact hf a rfl
  | error e =>
      obtain ⟨fault, field, he⟩ := hx.isRefused nofun
      cases he
      exact ⟨fault, field, rfl⟩

/-- An outcome that has one result in one case, and is refused in all others. -/
structure RefusedUnless (x : Outcome α) (taken : Prop) (a : α) : Prop where
  ok : taken → x = .ok a
  refused : ¬ taken → x.IsRefused

namespace RefusedUnless

variable {x : Outcome α} {taken : Prop} {a : α}

/-- What follows has to succeed only where its first part does. -/
theorem bind {f : α → Outcome β} {b : β} (hx : x.RefusedUnless taken a)
    (hf : taken → f a = .ok b) : (x >>= f).RefusedUnless taken b where
  ok htaken := by rw [hx.ok htaken, ok_bind, hf htaken]
  refused hrest := by
    obtain ⟨fault, field, he⟩ := hx.refused hrest
    exact ⟨fault, field, bind_eq_error.mpr (.inl he)⟩

theorem of_refuses (hx : x.Refuses) (hok : taken → x = .ok a) (htaken : ∀ b, x = .ok b → taken) :
    x.RefusedUnless taken a where
  ok := hok
  refused hrest := by
    refine hx.isRefused ?_
    rintro ⟨b, hb⟩
    exact hrest (htaken b hb)

end RefusedUnless

end Outcome

end VectorRequests
