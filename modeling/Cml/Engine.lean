import Mathlib.Algebra.Group.Nat.Basic
import Mathlib.Tactic.SplitIfs

set_option autoImplicit false

namespace Cml

/-! # The TPM2 engine references of `ssl_init` and `ssl_free`

`ssl_init` looks the TPM2 engine up with `ENGINE_by_id`, initialises it with `ENGINE_init` and
keeps it in `tpm_engine`; its error path and `ssl_free` give it back with `ENGINE_free` and
`ENGINE_finish`. OpenSSL's engine API (engine(3)) counts structural references, from
`ENGINE_by_id`, apart from functional ones, from `ENGINE_init`, and each call releases or uses a
reference its caller holds. The process's references are followed here through every engine call
the two functions make, with the library's answers left open. -/

/-- The references the process holds on the TPM2 engine. -/
structure EngineRefs where
  structural : Nat
  functional : Nat
deriving DecidableEq, Repr

inductive EngineCall
  /-- `ENGINE_by_id("tpm2")`, which finds the engine or not. -/
  | byId (found : Bool)
  /-- `ENGINE_init`, which succeeds or not. -/
  | init (ok : Bool)
  /-- A call that works on the engine: `ENGINE_set_default_RSA`, `ENGINE_set_default_RAND` or
  `ENGINE_ctrl_cmd`. -/
  | use
  /-- `ENGINE_free`. -/
  | free
  /-- `ENGINE_finish`. -/
  | finish
deriving DecidableEq, Repr

/-- What a call does to the process's references, as engine(3) has it; `none` when it needs or gives
back a reference the process does not hold. -/
def EngineRefs.call (refs : EngineRefs) : EngineCall → Option EngineRefs
  | .byId found => some (if found then { refs with structural := refs.structural + 1 } else refs)
  | .init ok =>
      if refs.structural + refs.functional = 0 then none
      else some (if ok then { refs with functional := refs.functional + 1 } else refs)
  | .use => if refs.structural + refs.functional = 0 then none else some refs
  | .free =>
      if refs.structural = 0 then none else some { refs with structural := refs.structural - 1 }
  | .finish =>
      if refs.functional = 0 then none else some { refs with functional := refs.functional - 1 }

def EngineRefs.calls (refs : EngineRefs) (calls : List EngineCall) : Option EngineRefs :=
  calls.foldlM EngineRefs.call refs

structure EngineAnswers where
  byId : Bool
  init : Bool
  setDefaultRsa : Bool
  setDefaultRand : Bool
  ctrlCmd : Bool
deriving DecidableEq, Repr

/-- The `error:` label of `ssl_init`, reached after `ENGINE_by_id` found the engine and the calls
`made` after it: `ENGINE_free`, then `ENGINE_finish`, and `tpm_engine` cleared. -/
def sslInitError (made : List EngineCall) : Int × List EngineCall × Bool :=
  (-1, .byId true :: made ++ [.free, .finish], false)

/-- `ssl_init`: its result, the engine calls in order, and whether it leaves `tpm_engine` set;
`passphrase` is whether `tpm2d_primary_storage_key_pw` is non-NULL. -/
def sslInit (answers : EngineAnswers) (useTpm passphrase tpmEngine : Bool) :
    Int × List EngineCall × Bool :=
  if !useTpm then (0, [], tpmEngine)
  else if !answers.byId then (-1, [.byId false], false)
  else if !answers.init then sslInitError [.init false]
  else if !answers.setDefaultRsa then sslInitError [.init true, .use]
  else if !answers.setDefaultRand then sslInitError [.init true, .use, .use]
  else if passphrase && !answers.ctrlCmd then sslInitError [.init true, .use, .use, .use]
  else (0, [.byId true, .init true, .use, .use] ++ if passphrase then [.use] else [], true)

/-- `ssl_free`: the calls it makes; it leaves `tpm_engine` cleared. -/
def sslFree (tpmEngine : Bool) : List EngineCall :=
  if tpmEngine then [.free, .finish] else []

/-- The ssl layer's global state: whether `tpm_engine` is set, and the references the process
holds on the TPM2 engine. -/
structure Ssl where
  tpmEngine : Bool
  refs : EngineRefs
deriving DecidableEq, Repr

inductive SslInput
  | init (answers : EngineAnswers) (useTpm passphrase : Bool)
  | free
deriving DecidableEq, Repr

/-- One call of `ssl_init` or `ssl_free`; `none` when one of its engine calls needs or gives back
a reference the process does not hold. -/
def Ssl.step (s : Ssl) : SslInput → Option Ssl
  | .init answers useTpm passphrase =>
      let result := sslInit answers useTpm passphrase s.tpmEngine
      (s.refs.calls result.2.1).map fun refs => ⟨result.2.2, refs⟩
  | .free => (s.refs.calls (sslFree s.tpmEngine)).map fun refs => ⟨false, refs⟩

def Ssl.run (s : Ssl) (inputs : List SslInput) : Option Ssl :=
  inputs.foldlM Ssl.step s

def SslInput.initFails : SslInput → Bool
  | .init answers useTpm _ => useTpm && answers.byId && !answers.init
  | .free => false

/-! ## The references through one call -/

section Refs

variable (refs : EngineRefs)

@[simp] theorem calls_nil : refs.calls [] = some refs := rfl

theorem calls_cons (call : EngineCall) (rest : List EngineCall) :
    refs.calls (call :: rest) = (refs.call call).bind fun next => next.calls rest := rfl

theorem calls_append (first rest : List EngineCall) :
    refs.calls (first ++ rest) = (refs.calls first).bind fun next => next.calls rest :=
  List.foldlM_append _ _ _ _

theorem calls_uses (uses : List EngineCall) (only : ∀ call ∈ uses, call = .use)
    (held : 0 < refs.structural) : refs.calls uses = some refs := by
  induction uses with
  | nil => rfl
  | cons call rest ih =>
      rw [only call (List.mem_cons_self _ _), calls_cons, EngineRefs.call,
        if_neg (by omega), Option.some_bind]
      exact ih fun call mem => only call (List.mem_cons_of_mem _ mem)

theorem calls_acquire :
    refs.calls [.byId true, .init true] = some ⟨refs.structural + 1, refs.functional + 1⟩ := by
  simp [calls_cons, EngineRefs.call]

theorem calls_release :
    EngineRefs.calls ⟨refs.structural + 1, refs.functional + 1⟩ [.free, .finish] = some refs := by
  simp [calls_cons, EngineRefs.call]

theorem calls_sslInitError (uses : List EngineCall) (only : ∀ call ∈ uses, call = .use) :
    refs.calls (sslInitError (.init true :: uses)).2.1 = some refs := by
  rw [sslInitError, show EngineCall.byId true :: (.init true :: uses) ++ [.free, .finish] =
    [.byId true, .init true] ++ uses ++ [.free, .finish] from rfl, calls_append, calls_append,
    calls_acquire, Option.some_bind, calls_uses _ _ only (Nat.succ_pos _), Option.some_bind,
    calls_release]

theorem calls_sslInit_success (uses : List EngineCall) (only : ∀ call ∈ uses, call = .use) :
    refs.calls ([.byId true, .init true] ++ uses) =
      some ⟨refs.structural + 1, refs.functional + 1⟩ := by
  rw [calls_append, calls_acquire, Option.some_bind, calls_uses _ _ only (Nat.succ_pos _)]

end Refs

theorem sslInit_cases (answers : EngineAnswers) (useTpm passphrase tpmEngine : Bool) :
    (useTpm = false ∧ sslInit answers useTpm passphrase tpmEngine = (0, [], tpmEngine)) ∨
      sslInit answers useTpm passphrase tpmEngine = (-1, [.byId false], false) ∨
      ((SslInput.init answers useTpm passphrase).initFails = true ∧
        sslInit answers useTpm passphrase tpmEngine = sslInitError [.init false]) ∨
      (∃ uses, (∀ call ∈ uses, call = .use) ∧
        sslInit answers useTpm passphrase tpmEngine = sslInitError (.init true :: uses)) ∨
      (useTpm = true ∧ ∃ uses, (∀ call ∈ uses, call = .use) ∧
        sslInit answers useTpm passphrase tpmEngine = (0, [.byId true, .init true] ++ uses, true)) := by
  unfold sslInit
  cases useTpm
  · exact .inl ⟨rfl, rfl⟩
  cases answers with
  | mk byId init setDefaultRsa setDefaultRand ctrlCmd =>
      cases byId
      · exact .inr (.inl rfl)
      cases init
      · exact .inr (.inr (.inl ⟨rfl, rfl⟩))
      cases setDefaultRsa
      · exact .inr (.inr (.inr (.inl ⟨[.use], by simp, rfl⟩)))
      cases setDefaultRand
      · exact .inr (.inr (.inr (.inl ⟨[.use, .use], by simp, rfl⟩)))
      cases passphrase <;> cases ctrlCmd
      all_goals first
        | exact .inr (.inr (.inr (.inl ⟨[.use, .use, .use], by simp, rfl⟩)))
        | exact .inr (.inr (.inr (.inr ⟨rfl, [.use, .use], by simp, rfl⟩)))
        | exact .inr (.inr (.inr (.inr ⟨rfl, [.use, .use, .use], by simp, rfl⟩)))

/-! ## Over runs -/

/-- The process holds one functional reference for each structural one, and at least one while
`tpm_engine` is set: what `ssl_free` needs to give back what `tpm_engine` holds. -/
def Ssl.Balanced (s : Ssl) : Prop :=
  s.refs.structural = s.refs.functional ∧ (s.tpmEngine = true → 0 < s.refs.functional)

theorem Ssl.run_cons (s : Ssl) (input : SslInput) (rest : List SslInput) :
    s.run (input :: rest) = (s.step input).bind fun next => next.run rest := rfl

theorem step_free_balanced (s : Ssl) (balanced : s.Balanced) :
    ∃ s', s.step .free = some s' ∧ s'.Balanced := by
  rcases s with ⟨tpmEngine, structural, functional⟩
  obtain ⟨same, held⟩ := balanced
  dsimp only at same held
  subst same
  cases tpmEngine
  · exact ⟨⟨false, structural, structural⟩, rfl, rfl, nofun⟩
  · obtain ⟨k, rfl⟩ := Nat.exists_eq_add_of_lt (held rfl)
    refine ⟨⟨false, k, k⟩, ?_, rfl, nofun⟩
    simp only [Ssl.step, sslFree, if_true, Nat.zero_add]
    rw [calls_release ⟨k, k⟩]
    rfl

theorem step_init_balanced (s : Ssl) (balanced : s.Balanced) (answers : EngineAnswers)
    (useTpm passphrase : Bool) (fine : (SslInput.init answers useTpm passphrase).initFails = false) :
    ∃ s', s.step (.init answers useTpm passphrase) = some s' ∧ s'.Balanced := by
  rcases sslInit_cases answers useTpm passphrase s.tpmEngine with
    ⟨-, result⟩ | result | ⟨fails, -⟩ | ⟨uses, only, result⟩ | ⟨-, uses, only, result⟩
  · exact ⟨s, by simp only [Ssl.step, result]; rfl, balanced⟩
  · exact ⟨⟨false, s.refs⟩, by simp [Ssl.step, result, calls_cons, EngineRefs.call],
      balanced.1, nofun⟩
  · rw [fine] at fails
    cases fails
  · exact ⟨⟨false, s.refs⟩, by simp only [Ssl.step, result, calls_sslInitError _ _ only]; rfl,
      balanced.1, nofun⟩
  · refine ⟨⟨true, ⟨s.refs.structural + 1, s.refs.functional + 1⟩⟩, ?_, ?_, fun _ => ?_⟩
    · simp only [Ssl.step, result, calls_sslInit_success _ _ only]
      rfl
    · simp only [balanced.1]
    · exact Nat.succ_pos _

/-- Over every run of `ssl_init` and `ssl_free` from a balanced state with no failing `ENGINE_init`,
every engine call is covered by a held reference and the process ends balanced. -/
theorem ssl_engine_refs_balanced_over_runs (s : Ssl) (balanced : s.Balanced)
    (inputs : List SslInput) (fine : ∀ input ∈ inputs, input.initFails = false) :
    ∃ s', s.run inputs = some s' ∧ s'.Balanced := by
  induction inputs generalizing s with
  | nil => exact ⟨s, rfl, balanced⟩
  | cons input rest ih =>
      obtain ⟨next, stepped, nextBalanced⟩ : ∃ next, s.step input = some next ∧ next.Balanced := by
        cases input with
        | free => exact step_free_balanced s balanced
        | init answers useTpm passphrase =>
            exact step_init_balanced s balanced answers useTpm passphrase
              (fine _ (List.mem_cons_self _ _))
      rw [Ssl.run_cons, stepped, Option.some_bind]
      exact ih next nextBalanced fun input mem => fine input (List.mem_cons_of_mem _ mem)

theorem ssl_engine_refs_balanced_over_runs_from_start :
    ∃ s', (⟨false, ⟨0, 0⟩⟩ : Ssl).run [.init ⟨true, true, true, true, true⟩ true true, .free,
        .init ⟨true, true, false, true, true⟩ true false, .free] = some s' ∧ s'.Balanced :=
  ssl_engine_refs_balanced_over_runs ⟨false, ⟨0, 0⟩⟩ ⟨rfl, nofun⟩ _ (by decide)

end Cml
