import KaCanOpen.Device

/-!
# Computations that keep a property of the state

`Keeps P x`: started in a state satisfying `P`, the computation `x` ends in one,
whether it returns or throws. The combinators below follow the monad's
structure, so that a property every primitive keeps is kept by every function
built from them. `Returns P x Q` is the partial-correctness triple over normal
returns: what a call establishes when it does not throw.
-/

set_option autoImplicit false

namespace KaCanOpen

open DeviceM

/-- Started in a state satisfying `P`, `x` ends, returning or throwing, in one. -/
def Keeps (P : Device → Prop) {α : Type} (x : DeviceM α) : Prop :=
  ∀ d, P d → P (final (x d))

namespace Keeps

variable {P : Device → Prop} {α β : Type}

theorem pure (a : α) : Keeps P (Pure.pure a : DeviceM α) := fun _ h => h

theorem get : Keeps P (MonadState.get : DeviceM Device) := fun _ h => h

theorem throw (e : Error) : Keeps P (MonadExcept.throw e : DeviceM α) := fun _ h => h

theorem modify {f : Device → Device} (h : ∀ d, P d → P (f d)) :
    Keeps P (modify f : DeviceM PUnit) := h

theorem bind {x : DeviceM α} {k : α → DeviceM β} (hx : Keeps P x) (hk : ∀ a, Keeps P (k a)) :
    Keeps P (x >>= k) := by
  intro d hd
  have h := hx d hd
  simp only [bind_apply]
  cases hr : x d with
  | ok a d' => rw [hr] at h; exact hk a d' h
  | error e d' => rw [hr] at h; exact h

theorem throw_bind (e : Error) (k : α → DeviceM β) : Keeps P (MonadExcept.throw e >>= k) :=
  fun _ h => h

theorem pure_bind {a : α} {k : α → DeviceM β} (hk : Keeps P (k a)) : Keeps P (Pure.pure a >>= k) :=
  hk

theorem ite {c : Prop} [Decidable c] {x y : DeviceM α} (hx : Keeps P x) (hy : Keeps P y) :
    Keeps P (if c then x else y) := by
  split <;> assumption

theorem throwExcept (x : Except Error α) : Keeps P (DeviceM.throwExcept x) := by
  cases x <;> exact fun _ h => h

theorem catchSdo {x : DeviceM α} {h : SdoError → DeviceM α} (hx : Keeps P x)
    (hh : ∀ e, Keeps P (h e)) : Keeps P (DeviceM.catchSdo x h) := by
  intro d hd
  have h0 := hx d hd
  simp only [DeviceM.catchSdo]
  split
  · next e d' hr => rw [hr] at h0; exact hh e d' h0
  · exact h0

theorem discard {x : DeviceM α} (hx : Keeps P x) : Keeps P (Functor.discard x) := by
  intro d hd
  have h := hx d hd
  simp only [discard_apply]
  cases hr : x d <;> rw [hr] at h <;> exact h

theorem of_ok {x : DeviceM α} {d d' : Device} {a : α} (h : Keeps P x) (hd : P d)
    (hx : x d = .ok a d') : P d' := by
  have h' := h d hd
  rwa [hx] at h'

end Keeps

/-- Started in a state satisfying `P`, `x` returns, when it does not throw, in a
state satisfying `Q`. -/
def Returns (P : Device → Prop) {α : Type} (x : DeviceM α) (Q : Device → Prop) : Prop :=
  ∀ d a d', P d → x d = .ok a d' → Q d'

namespace Returns

variable {P Q R : Device → Prop} {α β : Type}

theorem of_keeps {x : DeviceM α} (h : Keeps P x) : Returns P x P :=
  fun _ _ _ hd hx => Keeps.of_ok h hd hx

theorem conseq {P' Q' : Device → Prop} {x : DeviceM α} (hP : ∀ d, P d → P' d)
    (h : Returns P' x Q') (hQ : ∀ d, Q' d → Q d) : Returns P x Q :=
  fun d a d' hd hx => hQ d' (h d a d' (hP d hd) hx)

theorem pure {a : α} (h : ∀ d, P d → Q d) : Returns P (Pure.pure a : DeviceM α) Q := by
  rintro d _ _ hd ⟨⟩
  exact h d hd

theorem modify {f : Device → Device} (h : ∀ d, P d → Q (f d)) :
    Returns P (modify f : DeviceM PUnit) Q := by
  rintro d _ _ hd ⟨⟩
  exact h d hd

theorem throw (e : Error) : Returns P (MonadExcept.throw e : DeviceM α) Q := by
  rintro _ _ _ _ ⟨⟩

theorem throw_bind (e : Error) (k : α → DeviceM β) : Returns P (MonadExcept.throw e >>= k) Q := by
  rintro _ _ _ _ ⟨⟩

theorem bind {x : DeviceM α} {k : α → DeviceM β} (hx : Returns P x R)
    (hk : ∀ a, Returns R (k a) Q) : Returns P (x >>= k) Q := by
  intro d b d' hd h
  obtain ⟨a, d₁, h₁, h₂⟩ := bind_eq_ok.1 h
  exact hk a d₁ b d' (hx d a d₁ hd h₁) h₂

theorem ite {c : Prop} [Decidable c] {x y : DeviceM α} (hx : Returns P x Q) (hy : Returns P y Q) :
    Returns P (if c then x else y) Q := by
  split <;> assumption

theorem discard {x : DeviceM α} (hx : Returns P x Q) : Returns P (Functor.discard x) Q := by
  intro d _ d' hd h
  rw [discard_apply] at h
  cases hr : x d <;> rw [hr] at h <;> cases h
  exact hx d _ d' hd hr

end Returns

end KaCanOpen
