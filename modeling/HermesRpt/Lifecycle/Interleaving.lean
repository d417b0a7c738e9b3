import HermesRpt.Lifecycle.View
import Mathlib.Logic.Function.Basic

/-!
# HermesRpt.Lifecycle.Interleaving

Transactions on one mapping that run at the same time. Every statement of a transaction reads what
is committed when it runs, and the writes take effect together at the commit.

* `Method`      : the four methods that prepare and activate a version.
* `readMapping`, `readVersions`, `writes` : what a method reads first, what it reads then, and what
  it writes.
* `interleave`  : the machine of all transactions; one action begins a transaction, lets it read the
  versions, or commits it.
* `interleave_alone` : a transaction that nothing comes between is the method itself.
-/

namespace HermesRpt

namespace Lifecycle

open Keyed (Table)
open Transaction Machine
open Schemas Mappings

/-- A method on the mapping, with its arguments. -/
inductive Method where
  | createNewVersion (document : MappingDocument) (isAiSuggested : Bool) (confidence : Option ℚ)
      (explanation : Option String) (versionId : Uuid)
  | submitForValidation
  | approve
  | activate

/-- What the method reads of the versions: the next number, or the latest version. -/
@[reducible] def Method.Seen : Method → Type
  | .createNewVersion .. => Nat
  | _ => MappingVersion

/-- The method, run on its own. -/
def Method.call (ctx : TenantContext) (k : Uuid) : Method → Call
  | .createNewVersion document isAiSuggested confidence explanation versionId =>
    .createNewVersion ctx k document isAiSuggested confidence explanation versionId
  | .submitForValidation => .submitForValidation ctx k
  | .approve => .approve ctx k
  | .activate => .activate ctx k

/-- The state the method asks for. -/
def Method.accepts : Method → MappingState → Except PyError Unit
  | .createNewVersion .., _ => .ok ()
  | .submitForValidation, state =>
    if state ≠ .DRAFT then .error (invalidTransition state "submit for validation") else .ok ()
  | .approve, state =>
    if state ≠ .PENDING_VALIDATION then .error (invalidTransition state "approve") else .ok ()
  | .activate, state =>
    if state ≠ .APPROVED then .error (invalidTransition state "activate") else .ok ()

/-- The row of the mapping, as it is committed now. -/
def readMapping (ctx : TenantContext) (k : Uuid) (method : Method) (db : ControlPlane) :
    Except PyError SchemaMapping := do
  let mapping ← require SchemaMapping db k ctx
  method.accepts mapping.state
  return mapping

/-- The versions, as they are committed now; a submission also validates the latest one. -/
def readVersions (std : Stdlib) (ctx : TenantContext) (mapping : SchemaMapping) :
    (method : Method) → ControlPlane → Except PyError method.Seen
  | .createNewVersion .., db => .ok (nextNumber db mapping ctx)
  | .submitForValidation, db => do
    let version ← latestVersionFor db mapping ctx
    validateVersion std db mapping version ctx
    return version
  | .approve, db => latestVersionFor db mapping ctx
  | .activate, db => latestVersionFor db mapping ctx

/-- The row that `create_new_version` inserts. -/
def newVersion (ctx : TenantContext) (mapping : SchemaMapping) (document : MappingDocument)
    (isAiSuggested : Bool) (confidence : Option ℚ) (explanation : Option String)
    (versionId : Uuid) (number : Nat) : MappingVersion :=
  { id := versionId, tenantId := ctx.tenantId, schemaMappingId := mapping.id,
    versionNumber := number, mappingDocument := document, isAiSuggested, confidence, explanation,
    createdByUserId := some ctx.principalId }

/-- The row of the mapping as the method leaves it. -/
def written (mapping : SchemaMapping) : (method : Method) → method.Seen → SchemaMapping
  | .createNewVersion .., _ => { mapping with state := .DRAFT }
  | .submitForValidation, _ => { mapping with state := .PENDING_VALIDATION }
  | .approve, _ => { mapping with state := .APPROVED }
  | .activate, version => { mapping with
      activeVersionId := some version.id, state := .ACTIVE, suspendedDueToDrift := false }

/-- The method's writes besides the mapping's row. -/
def writesVersion (ctx : TenantContext) (mapping : SchemaMapping) :
    (method : Method) → method.Seen → Session Unit
  | .createNewVersion document isAiSuggested confidence explanation versionId, number =>
    add ctx (newVersion ctx mapping document isAiSuggested confidence explanation versionId number)
  | .approve, version => flushApproval version ctx.principalId
  | _, _ => pure ()

def recordMethod (ctx : TenantContext) (mapping : SchemaMapping) :
    (method : Method) → method.Seen → Session Unit
  | .createNewVersion .., number =>
    record ctx "mapping.create_new_version" .SUCCESS "SchemaMapping" mapping.id
      [("version_number", some (.int (number : Nat)))]
  | .submitForValidation, _ =>
    record ctx "mapping.submit_for_validation" .SUCCESS "SchemaMapping" mapping.id
  | .approve, _ => record ctx "mapping.approve" .SUCCESS "SchemaMapping" mapping.id
  | .activate, version =>
    record ctx "mapping.activate" .SUCCESS "SchemaMapping" mapping.id
      [("active_version_id", some (.str (uuidStr version.id)))]

/-- Everything the commit of the method writes. -/
def writes (ctx : TenantContext) (mapping : SchemaMapping) (method : Method) (seen : method.Seen) :
    Session Unit := do
  writesVersion ctx mapping method seen
  flushMapping mapping (written mapping method seen)
  recordMethod ctx mapping method seen

/-! ## The machine -/

/-- A transaction that has begun: the row it read, and what it saw of the versions. -/
structure Flight where
  ctx : TenantContext
  method : Method
  mapping : SchemaMapping
  seen : Option method.Seen

/-- The committed database and the transactions that are open. -/
structure World where
  db : ControlPlane
  flights : Nat → Option Flight

/-- No transaction is open. -/
def World.quiet (db : ControlPlane) : World := ⟨db, fun _ => none⟩

inductive Action where
  | begin (tid : Nat) (ctx : TenantContext) (method : Method)
  | look (tid : Nat)
  | commit (tid : Nat)

/-- The transaction `tid` is now at `flight`, or closed. -/
def World.setFlight (w : World) (tid : Nat) (flight : Option Flight) : World :=
  { w with flights := Function.update w.flights tid flight }

/-- One action of one of the transactions on mapping `k`. A raise closes the transaction. -/
def interleave (std : Stdlib) (k : Uuid) (w : World) : Action → World
  | .begin tid ctx method =>
    match w.flights tid, readMapping ctx k method w.db with
    | none, .ok mapping => w.setFlight tid (some ⟨ctx, method, mapping, none⟩)
    | _, _ => w
  | .look tid =>
    match w.flights tid with
    | some ⟨ctx, method, mapping, none⟩ =>
      match readVersions std ctx mapping method w.db with
      | .ok seen => w.setFlight tid (some ⟨ctx, method, mapping, some seen⟩)
      | .error _ => w.setFlight tid none
    | _ => w
  | .commit tid =>
    match w.flights tid with
    | some ⟨ctx, method, mapping, some seen⟩ =>
      { w.setFlight tid none with db := after (writes ctx mapping method seen) w.db }
    | _ => w

/-! ## A transaction on its own -/

variable {std : Stdlib} {ctx : TenantContext} {k : Uuid} {method : Method} {db : ControlPlane}

/-- A method reads the mapping, then the versions, and then writes. -/
theorem perform_call :
    perform std (method.call ctx k) = (read fun db => readMapping ctx k method db) >>= fun mapping =>
      (read fun db => readVersions std ctx mapping method db) >>= fun seen =>
        writes ctx mapping method seen := by
  cases method with
  | createNewVersion document ai confidence explanation versionId =>
    simp only [Method.call, perform, createNewVersion, readMapping, Method.accepts, readVersions,
      writes, writesVersion, written, recordMethod, newVersion, read_bind, read_pure, bind_assoc,
      pure_bind, bind_pure_unit]
    rfl
  | submitForValidation =>
    simp only [Method.call, perform, submitForValidation, readMapping, Method.accepts, readVersions,
      writes, writesVersion, written, recordMethod, read_bind, read_pure, read_check, bind_assoc,
      pure_bind, bind_pure_unit]
  | approve =>
    simp only [Method.call, perform, Mappings.approve, readMapping, Method.accepts, readVersions,
      writes, writesVersion, written, recordMethod, read_bind, read_pure, read_check, bind_assoc,
      pure_bind, bind_pure_unit]
  | activate =>
    simp only [Method.call, perform, Mappings.activate, readMapping, Method.accepts, readVersions,
      writes, writesVersion, written, recordMethod, read_bind, read_pure, read_check, bind_assoc,
      pure_bind, bind_pure_unit]

/-- A transaction that nothing comes between does what the method does. -/
theorem interleave_alone {w : World} {tid : Nat} (h : w.flights tid = none) :
    run (interleave std k) w [.begin tid ctx method, .look tid, .commit tid] =
      { w with db := step std w.db (method.call ctx k) } := by
  have hclosed : Function.update w.flights tid none = w.flights := by
    rw [← h, Function.update_eq_self]
  simp only [run_cons, run_nil, step, perform_call]
  cases hm : readMapping ctx k method w.db with
  | error e =>
    simp only [interleave, h, hm, after, bind, StateT.bind, Except.bind,
        Transaction.read]
  | ok mapping =>
    cases hv : readVersions std ctx mapping method w.db with
    | error e =>
      simp only [interleave, h, hm, hv, World.setFlight, Function.update_self,
        Function.update_idem, hclosed, after, bind, StateT.bind, Except.bind,
        Transaction.read]
    | ok seen =>
      simp only [interleave, h, hm, hv, World.setFlight, Function.update_self,
        Function.update_idem, hclosed, after, bind, StateT.bind, Except.bind,
        Transaction.read]

end Lifecycle

namespace Sample

open Lifecycle

def draft : List Call := [.createDraft ctx 20 document "1" false none none 30 40]

def reviewed : List Call := draft ++ [.submitForValidation ctx 30, .approve ctx 30]

/-- A transaction that nothing comes between. -/
def alone (tid : Nat) (method : Method) : List Action :=
  [.begin tid ctx method, .look tid, .commit tid]

/-- A second version is stored between the validation and the commit of a submission. -/
def overtaken : List Action :=
  [.begin 0 ctx .submitForValidation, .look 0] ++
  alone 1 (.createNewVersion document false none none 41) ++ [.commit 0] ++
  alone 2 .approve ++ alone 3 .activate

end Sample

end HermesRpt
