import HermesRpt.Registry.Repository

/-!
# HermesRpt.Transformer.PretrainingConsent

The consent gate of shared pretraining: every contributing tenant has a granted row. The lookup of a
tenant's consent reads one row or none, and no constraint of the table keeps a second one out.

* `DataUsageConsent`                : the table.
* `requireSharedPretrainingConsent` : the gate.
* `Gate`                            : what the gate is for.
* `gate_iff`                        : the gate is met unless it reaches a tenant with several rows.
-/

namespace HermesRpt

namespace Transformer

open Keyed (Table HasKey)
open Registry (scalarOneOrNone)

inductive ConsentStatus where
  | GRANTED | REVOKED | EXPIRED
  deriving DecidableEq, Repr

structure DataUsageConsent where
  id : Uuid
  tenantId : Uuid
  consentType : String
  status : ConsentStatus := .GRANTED
  grantedByUserId : Uuid
  notes : String := ""
  deriving DecidableEq

instance : HasKey DataUsageConsent Uuid := ⟨DataUsageConsent.id⟩

def sharedPretrainingConsentType : String := "shared_pretraining"

/-- The rows that `has_granted_consent` selects. -/
def grantedConsents (consents : Table DataUsageConsent) (tenantId : Uuid) (consentType : String) :
    List DataUsageConsent :=
  consents.rows.filter fun c => c.tenantId = tenantId ∧ c.consentType = consentType ∧
    c.status = .GRANTED

def hasGrantedConsent (consents : Table DataUsageConsent) (tenantId : Uuid) (consentType : String) :
    Except PyError Bool := do
  let row ← scalarOneOrNone (grantedConsents consents tenantId consentType)
  return row.isSome

/-- `SharedPretrainingConsentError` -/
def sharedPretrainingConsentError (tenantId : Uuid) : PyError :=
  ⟨.SharedPretrainingConsentError, "Tenant " ++ uuidStr tenantId ++ " has no granted " ++
    reprStr sharedPretrainingConsentType ++ " consent record — shared pretraining requires an " ++
    "explicit, approved consent record from every contributing tenant"⟩

def requireSharedPretrainingConsent (consents : Table DataUsageConsent) :
    List Uuid → Except PyError Unit
  | [] => .ok ()
  | tenantId :: tenantIds => do
    if ← hasGrantedConsent consents tenantId sharedPretrainingConsentType then
      requireSharedPretrainingConsent consents tenantIds
    else .error (sharedPretrainingConsentError tenantId)

/-! ## The gate -/

/-- The tenant has a granted row of shared pretraining. -/
def Consents (consents : Table DataUsageConsent) (tenantId : Uuid) : Prop :=
  ∃ c ∈ consents, c.tenantId = tenantId ∧ c.consentType = sharedPretrainingConsentType ∧
    c.status = .GRANTED

/-- The gate opens exactly when every tenant consents, and names the first one that does not. -/
structure Gate (consents : Table DataUsageConsent) (tenantIds : List Uuid) : Prop where
  opens : requireSharedPretrainingConsent consents tenantIds = .ok () ↔
    ∀ tenantId ∈ tenantIds, Consents consents tenantId
  names : ∀ before tenantId later, tenantIds = before ++ tenantId :: later →
    (∀ t ∈ before, Consents consents t) → ¬Consents consents tenantId →
    requireSharedPretrainingConsent consents tenantIds =
      .error (sharedPretrainingConsentError tenantId)

/-- No tenant up to the first one that does not consent has two granted rows. -/
def SingleGrants (consents : Table DataUsageConsent) (tenantIds : List Uuid) : Prop :=
  ∀ before tenantId later, tenantIds = before ++ tenantId :: later →
    (∀ t ∈ before, Consents consents t) →
    (grantedConsents consents tenantId sharedPretrainingConsentType).length ≤ 1

variable {consents : Table DataUsageConsent} {tenantId : Uuid} {tenantIds : List Uuid}

theorem consents_iff : Consents consents tenantId ↔
    grantedConsents consents tenantId sharedPretrainingConsentType ≠ [] := by
  constructor
  · rintro ⟨c, hc, hselected⟩
    exact List.ne_nil_of_mem (List.mem_filter.2 ⟨hc, decide_eq_true hselected⟩)
  · intro hne
    obtain ⟨c, hc⟩ := List.exists_mem_of_ne_nil _ hne
    obtain ⟨hmem, hselected⟩ := List.mem_filter.1 hc
    exact ⟨c, hmem, of_decide_eq_true hselected⟩

instance (consents : Table DataUsageConsent) (tenantId : Uuid) :
    Decidable (Consents consents tenantId) := decidable_of_iff _ consents_iff.symm

/-- Tenants that do not all consent have a first one that does not. -/
theorem exists_first (h : ¬∀ t ∈ tenantIds, Consents consents t) :
    ∃ before tenantId later, tenantIds = before ++ tenantId :: later ∧
      (∀ t ∈ before, Consents consents t) ∧ ¬Consents consents tenantId := by
  cases hfind : tenantIds.find? fun t => ¬Consents consents t with
  | none =>
    rw [List.find?_eq_none] at hfind
    exact absurd (fun t ht => by simpa using hfind t ht) h
  | some tenantId =>
    obtain ⟨hnot, before, later, rfl, hbefore⟩ := List.find?_eq_some_iff_append.1 hfind
    exact ⟨before, tenantId, later, rfl, fun t ht => by simpa using hbefore t ht,
      by simpa using hnot⟩

/-- Without a row the gate stops at the tenant. -/
theorem require_none (h : grantedConsents consents tenantId sharedPretrainingConsentType = []) :
    requireSharedPretrainingConsent consents (tenantId :: tenantIds) =
      .error (sharedPretrainingConsentError tenantId) := by
  simp [requireSharedPretrainingConsent, hasGrantedConsent, h, scalarOneOrNone, bind, Except.bind,
    pure, Except.pure]

/-- With one row it goes on. -/
theorem require_one
    (h : (grantedConsents consents tenantId sharedPretrainingConsentType).length = 1) :
    requireSharedPretrainingConsent consents (tenantId :: tenantIds) =
      requireSharedPretrainingConsent consents tenantIds := by
  obtain ⟨c, hc⟩ := List.length_eq_one_iff.1 h
  simp [requireSharedPretrainingConsent, hasGrantedConsent, hc, scalarOneOrNone, bind, Except.bind,
    pure, Except.pure]

/-- With several rows the lookup raises. -/
theorem require_several
    (h : 1 < (grantedConsents consents tenantId sharedPretrainingConsentType).length) :
    requireSharedPretrainingConsent consents (tenantId :: tenantIds) =
      .error ⟨.MultipleResultsFound,
        "Multiple rows were found when one or none was required"⟩ := by
  rw [requireSharedPretrainingConsent, hasGrantedConsent]
  match hrows : grantedConsents consents tenantId sharedPretrainingConsentType with
  | [] => simp [hrows] at h
  | [c] => simp [hrows] at h
  | c :: c' :: rest => rfl

/-- A tenant with several rows is reached when all before it consent. -/
theorem require_reaches_several {before later : List Uuid}
    (hbefore : ∀ t ∈ before, Consents consents t)
    (h : 1 < (grantedConsents consents tenantId sharedPretrainingConsentType).length) :
    ∃ message, requireSharedPretrainingConsent consents (before ++ tenantId :: later) =
      .error ⟨.MultipleResultsFound, message⟩ := by
  induction before with
  | nil => exact ⟨_, require_several h⟩
  | cons t before ih =>
    have hne := consents_iff.1 (hbefore t List.mem_cons_self)
    have hpos := List.length_pos_iff.2 hne
    rcases Nat.lt_or_ge 1 (grantedConsents consents t sharedPretrainingConsentType).length with
      hmany | hone
    · exact ⟨_, require_several hmany⟩
    · rw [List.cons_append, require_one (by omega)]
      exact ih fun u hu => hbefore u (List.mem_cons_of_mem t hu)

/-- Such a tenant breaks the gate: the error is neither a return nor the gate's own. -/
theorem not_gate {before later : List Uuid} (hbefore : ∀ t ∈ before, Consents consents t)
    (h : 1 < (grantedConsents consents tenantId sharedPretrainingConsentType).length) :
    ¬Gate consents (before ++ tenantId :: later) := by
  intro hgate
  obtain ⟨message, hraises⟩ : ∃ message, requireSharedPretrainingConsent consents
      (before ++ tenantId :: later) = .error ⟨.MultipleResultsFound, message⟩ :=
    require_reaches_several hbefore h
  have hnot : ¬∀ t ∈ before ++ tenantId :: later, Consents consents t := by
    intro hall
    have hok := hgate.opens.2 hall
    rw [hraises] at hok
    cases hok
  obtain ⟨before', tenantId', later', hsplit, hbefore', hmissing⟩ := exists_first hnot
  have hnamed := hgate.names before' tenantId' later' hsplit hbefore' hmissing
  rw [hraises] at hnamed
  cases hnamed

theorem gate_nil : Gate consents [] where
  opens := by simp [requireSharedPretrainingConsent]
  names before tenantId later h := by simp at h

/-- A tenant without a row: the gate names it. -/
theorem gate_cons_of_none
    (h : grantedConsents consents tenantId sharedPretrainingConsentType = []) :
    Gate consents (tenantId :: tenantIds) := by
  have hnot : ¬Consents consents tenantId := fun hc => consents_iff.1 hc h
  constructor
  · rw [require_none h]
    constructor
    · intro hok
      cases hok
    · intro hall
      exact absurd (hall tenantId List.mem_cons_self) hnot
  · intro before t later hsplit hbefore _
    cases before with
    | nil =>
      obtain ⟨rfl, -⟩ := List.cons.inj hsplit
      exact require_none h
    | cons u before =>
      obtain ⟨rfl, -⟩ := List.cons.inj hsplit
      exact absurd (hbefore tenantId List.mem_cons_self) hnot

/-- A tenant with one row: the gate is the one of the others. -/
theorem gate_cons_of_one
    (h : (grantedConsents consents tenantId sharedPretrainingConsentType).length = 1)
    (hgate : Gate consents tenantIds) : Gate consents (tenantId :: tenantIds) := by
  have hconsents : Consents consents tenantId :=
    consents_iff.2 fun hnil => by simp [hnil] at h
  constructor
  · rw [require_one h, hgate.opens, List.forall_mem_cons]
    exact (and_iff_right hconsents).symm
  · intro before t later hsplit hbefore hmissing
    cases before with
    | nil =>
      obtain ⟨rfl, -⟩ := List.cons.inj hsplit
      exact absurd hconsents hmissing
    | cons u before =>
      obtain ⟨rfl, htail⟩ := List.cons.inj hsplit
      rw [require_one h]
      exact hgate.names before t later htail
        (fun v hv => hbefore v (List.mem_cons_of_mem _ hv)) hmissing

theorem gate_of_singleGrants (h : SingleGrants consents tenantIds) : Gate consents tenantIds := by
  induction tenantIds with
  | nil => exact gate_nil
  | cons tenantId tenantIds ih =>
    have hle := h [] tenantId tenantIds rfl (by simp)
    rcases Nat.le_one_iff_eq_zero_or_eq_one.1 hle with hzero | hone
    · exact gate_cons_of_none (List.length_eq_zero_iff.1 hzero)
    · have hconsents : Consents consents tenantId :=
        consents_iff.2 fun hnil => by simp [hnil] at hone
      refine gate_cons_of_one hone (ih ?_)
      intro before t later hsplit hbefore
      refine h (tenantId :: before) t later (by rw [hsplit]; rfl) ?_
      exact List.forall_mem_cons.2 ⟨hconsents, hbefore⟩

/-- The gate is met exactly when it reaches no tenant with several granted rows. -/
theorem gate_iff (consents : Table DataUsageConsent) (tenantIds : List Uuid) :
    Gate consents tenantIds ↔ SingleGrants consents tenantIds := by
  constructor
  · intro hgate before tenantId later hsplit hbefore
    by_contra hmany
    rw [hsplit] at hgate
    exact not_gate hbefore (not_le.1 hmany) hgate
  · exact gate_of_singleGrants

/-- A tenant that granted its consent twice. -/
def grantedTwice : Table DataUsageConsent where
  rows := [⟨1, 7, "shared_pretraining", .GRANTED, 3, ""⟩,
    ⟨2, 7, "shared_pretraining", .GRANTED, 3, ""⟩]
  nodup_keys := by decide

theorem not_gate_grantedTwice : Consents grantedTwice 7 ∧
    requireSharedPretrainingConsent grantedTwice [7] =
      .error ⟨.MultipleResultsFound, "Multiple rows were found when one or none was required"⟩ ∧
    ¬Gate grantedTwice [7] := by
  have hbefore : ∀ t ∈ ([] : List Uuid), Consents grantedTwice t := by simp
  have hgate : ¬Gate grantedTwice ([] ++ 7 :: []) := not_gate hbefore (by decide)
  exact ⟨by decide, require_several (by decide), hgate⟩

end Transformer

end HermesRpt
