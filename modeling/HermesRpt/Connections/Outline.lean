import HermesRpt.Connections.Service

/-!
# HermesRpt.Connections.Outline

A proof outline of the connection requests: what is known at each of their effects from what they
have performed so far.

* `BuiltFrom`   : an engine is made of the rows and the secret that the request has read.
* `Announced`   : a write of the request. One that may make a pooled engine stale comes after the
  eviction of that engine.
* `Asserts`     : the assertion at an effect, and `Ends` at the end of a request.
* `program_safe` : the outline holds of every request.
-/

namespace HermesRpt

namespace Connections

open Connectors
open Async Code

def callerContext : Request → TenantContext
  | .registerConnection ctx .. => ctx
  | .getOrCreateEngine _ ctx => ctx
  | .validateConnection _ ctx .. => ctx
  | .enableConnection _ ctx => ctx
  | .disableConnection _ ctx => ctx
  | .rotateSecret _ ctx .. => ctx
  | .deleteConnection _ ctx => ctx

/-- The id that the request names or draws. -/
def connectionOf : Request → Uuid
  | .registerConnection _ _ _ _ connectionId => connectionId
  | .getOrCreateEngine connectionId _ => connectionId
  | .validateConnection connectionId .. => connectionId
  | .enableConnection connectionId _ => connectionId
  | .disableConnection connectionId _ => connectionId
  | .rotateSecret connectionId .. => connectionId
  | .deleteConnection connectionId _ => connectionId

def Registers : Request → Prop
  | .registerConnection .. => True
  | _ => False

def Validates : Request → Prop
  | .validateConnection .. => True
  | _ => False

/-- The request has read `connection` for the id it names. -/
def HasRead (request : Request) (tr : Trace Reply) (connection : CustomerDatabaseConnection) : Prop :=
  ⟨.requireConnection (connectionOf request) (callerContext request), connection⟩ ∈ tr

def HasEvicted (tr : Trace Reply) (tenantId connectionId : Uuid) : Prop :=
  ⟨.evict tenantId connectionId, ()⟩ ∈ tr

/-- The request has an engine of the pool. -/
def HasEngine (tr : Trace Reply) (engine : PooledEngine) : Prop :=
  ∃ tenantId connectionId built, ⟨.getOrCreate tenantId connectionId built, engine⟩ ∈ tr

def HasCommitted (tr : Trace Reply) : Prop := ⟨.commit, ()⟩ ∈ tr

def BuiltFrom (request : Request) (tr : Trace Reply) (engine : PooledEngine) : Prop :=
  HasRead request tr engine.connection ∧
    ⟨.requireCredential engine.connection.credentialReferenceId (callerContext request),
      engine.credential⟩ ∈ tr ∧
    ⟨.resolve engine.credential.referenceKey, engine.password⟩ ∈ tr

/-- The columns that are set leave a pooled engine as good as it was. -/
def SparesEngine (changes : ConnectionChanges) : Prop :=
  changes.credentialReferenceId = none ∧ ∃ status, changes.status = some status ∧ status ≠ .DISABLED

def Announced (request : Request) (tr : Trace Reply) : Write → Prop
  | .addConnection _ connection => Registers request ∧ connection.id = connectionOf request
  | .updateConnection connection changes => HasRead request tr connection ∧
      (SparesEngine changes ∨ HasEvicted tr (callerContext request).tenantId connection.id)
  | .deleteConnection connection => HasRead request tr connection ∧
      HasEvicted tr (callerContext request).tenantId connection.id
  | _ => True

/-- The writes record a check of `connection` and nothing else. -/
def RecordsCheck (connection : CustomerDatabaseConnection) (writes : List Write) : Prop :=
  ∃ changes ctx action outcome id details, SparesEngine changes ∧
    writes = [.updateConnection connection changes, .audit ctx action outcome id details]

/-- What is left of a validation that has its engine. -/
def FinishesCheck (connection : CustomerDatabaseConnection) (tr : Trace Reply) : Await → Prop
  | .checkConnectivity .. => True
  | .flush writes => RecordsCheck connection (pending tr ++ writes)
  | .commit => RecordsCheck connection (pending tr)
  | _ => False

def Asserts (request : Request) (tr : Trace Reply) (e : Await) : Prop :=
  ¬HasCommitted tr ∧
  (Validates request → ∀ connection engine, HasRead request tr connection → HasEngine tr engine →
    FinishesCheck connection tr e) ∧
  match e with
  | .requireConnection id ctx => id = connectionOf request ∧ ctx = callerContext request
  | .getOrCreate tenantId connectionId engine => tenantId = (callerContext request).tenantId ∧
      connectionId = engine.connection.id ∧ BuiltFrom request tr engine ∧
      ∀ t c, ¬HasEvicted tr t c
  | .commit => ∀ w ∈ pending tr, Announced request tr w
  | _ => True

def Ends (request : Request) (tr : Trace Reply) (result : Except PyError Response) : Prop :=
  (Validates request → ∀ engine, HasEngine tr engine → HasCommitted tr) ∧
  (∀ err, result = .error err → ¬HasCommitted tr) ∧
  ∀ connection engine, result = .ok (.engine connection engine) →
    HasRead request tr connection ∧
      ∃ built, ⟨.getOrCreate (callerContext request).tenantId connection.id built, engine⟩ ∈ tr

theorem spares_healthCheck (result : HealthCheckResult) : SparesEngine result.changes := by
  unfold SparesEngine HealthCheckResult.changes
  cases result.healthy <;> simp

section

variable {ctx : TenantContext} {connectionId : Uuid}

attribute [local simp] program commitThen Asserts Ends HasRead HasEvicted HasEngine HasCommitted
  BuiltFrom Validates Registers callerContext connectionOf pending Announced FinishesCheck

theorem getOrCreateEngine_safe :
    Safe (Asserts (.getOrCreateEngine connectionId ctx)) (Ends (.getOrCreateEngine connectionId ctx))
      [] (program (.getOrCreateEngine connectionId ctx)) := by
  simp only [program, getOrCreateEngineMethod, resolveEngine, ofEffect_bind, await_bind, safe_await]
  refine ⟨by simp, fun connection => ?_⟩
  split <;> simp

theorem validateConnection_safe {checkedAt : DateTime} {failure : Option String} :
    Safe (Asserts (.validateConnection connectionId ctx checkedAt failure))
      (Ends (.validateConnection connectionId ctx checkedAt failure)) []
      (program (.validateConnection connectionId ctx checkedAt failure)) := by
  simp [validateConnection, resolveEngine, check, RecordsCheck, spares_healthCheck]

theorem enableConnection_safe :
    Safe (Asserts (.enableConnection connectionId ctx)) (Ends (.enableConnection connectionId ctx))
      [] (program (.enableConnection connectionId ctx)) := by
  simp only [program, commitThen, enableConnection, ofEffect_bind, await_bind, safe_await]
  refine ⟨by simp, fun connection => ?_⟩
  split <;> simp [SparesEngine]

theorem disableConnection_safe :
    Safe (Asserts (.disableConnection connectionId ctx))
      (Ends (.disableConnection connectionId ctx)) []
      (program (.disableConnection connectionId ctx)) := by
  simp [disableConnection]

theorem rotateSecret_safe {newSecretValue : String} {secretId credentialId : Uuid} {now : DateTime} :
    Safe (Asserts (.rotateSecret connectionId ctx newSecretValue secretId credentialId now))
      (Ends (.rotateSecret connectionId ctx newSecretValue secretId credentialId now)) []
      (program (.rotateSecret connectionId ctx newSecretValue secretId credentialId now)) := by
  simp [rotateSecret]

theorem deleteConnection_safe :
    Safe (Asserts (.deleteConnection connectionId ctx))
      (Ends (.deleteConnection connectionId ctx)) []
      (program (.deleteConnection connectionId ctx)) := by
  simp only [program, deleteConnectionMethod, ofEffect_bind, await_bind, safe_await]
  refine ⟨by simp, fun connection => ⟨by simp, fun credential => ?_⟩⟩
  cases credential <;> simp

end

theorem program_safe (request : Request) : Safe (Asserts request) (Ends request) [] (program request) := by
  cases request with
  | registerConnection ctx body secretId credentialId connectionId =>
    simp [program, commitThen, registerConnection, Asserts, Ends, HasCommitted, Validates, pending,
      Announced, Registers, connectionOf, ConnectionRegisterRequest.connection]
  | getOrCreateEngine connectionId ctx => exact getOrCreateEngine_safe
  | validateConnection connectionId ctx checkedAt failure => exact validateConnection_safe
  | enableConnection connectionId ctx => exact enableConnection_safe
  | disableConnection connectionId ctx => exact disableConnection_safe
  | rotateSecret connectionId ctx newSecretValue secretId credentialId now => exact rotateSecret_safe
  | deleteConnection connectionId ctx => exact deleteConnection_safe

end Connections

end HermesRpt
