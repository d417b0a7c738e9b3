import HermesRpt.Auth.RateLimit
import HermesRpt.Auth.Steps

/-!
# HermesRpt.Auth.Attempts

How often a secret can be tried, in any run of the platform: an exchange is checked against the stored
hash only when both rate limiters let it through.

* `attempts`         : the exchanges of a run whose secret is checked.
* `step_limiters`    : nothing but an exchange moves the limiters.
* `attempts_client`, `attempts_ip` : the attempts are among the calls that the limiters accept.
* `exchange_attempts_bounded` : how many there are in a minute.
-/

namespace HermesRpt

namespace Auth

open UnitOfWork

def clientCheck (call : ExchangeCall) : RateLimiter.Call :=
  { key := "client:" ++ call.clientId, now := call.clientNow }

def ipCheck (call : ExchangeCall) : RateLimiter.Call :=
  { key := "ip:" ++ call.clientHost.getD "unknown", now := call.ipNow }

section

variable {π : Type} (std : Stdlib) (lib : TokenLibrary π) (settings : PlatformSettings)

/-- The exchanges of a run whose secret is checked. -/
def attempts : Platform → List Request → List ExchangeCall
  | _, [] => []
  | p, request :: requests =>
    let rest := attempts (step std lib settings p request) requests
    match request with
    | .exchange call =>
      if withinLimits ⟨p.ledger.store, p.limiters⟩ call then call :: rest else rest
    | _ => rest

/-- The calls that a run makes to the limiter of the source addresses: it is asked when the other one
lets the request through. -/
def ipChecks : Platform → List Request → List ExchangeCall
  | _, [] => []
  | p, request :: requests =>
    let rest := ipChecks (step std lib settings p request) requests
    match request with
    | .exchange call =>
      if p.limiters.client.returns (clientCheck call) then call :: rest else rest
    | _ => rest

end

def exchanges (requests : List Request) : List ExchangeCall :=
  requests.filterMap fun
    | .exchange call => some call
    | _ => none

section

variable {π : Type} {std : Stdlib} {lib : TokenLibrary π} {settings : PlatformSettings} {p : Platform}
  {call : ExchangeCall} {requests : List Request}

/-! ## The limiters of a run -/

theorem check_client (limiters : Limiters) (call : ExchangeCall) :
    (limiters.check call.clientNow call.ipNow call.clientId (call.clientHost.getD "unknown")).2.client =
      limiters.client.serve (clientCheck call) := by
  unfold Limiters.check RateLimiter.serve clientCheck
  rcases limiters.client.check call.clientNow ("client:" ++ call.clientId) with ⟨passed, client⟩
  cases passed <;> rfl

theorem check_ip (limiters : Limiters) (call : ExchangeCall) :
    (limiters.check call.clientNow call.ipNow call.clientId (call.clientHost.getD "unknown")).2.ip =
      if limiters.client.returns (clientCheck call) then limiters.ip.serve (ipCheck call)
      else limiters.ip := by
  unfold Limiters.check RateLimiter.returns RateLimiter.serve clientCheck ipCheck
  rcases limiters.client.check call.clientNow ("client:" ++ call.clientId) with ⟨passed, client⟩
  cases passed <;> rfl

theorem within_iff (store : Store) (limiters : Limiters) (call : ExchangeCall) :
    withinLimits ⟨store, limiters⟩ call = true ↔ limiters.client.returns (clientCheck call) = true ∧
      limiters.ip.returns (ipCheck call) = true := by
  unfold withinLimits Limiters.check RateLimiter.returns clientCheck ipCheck
  rcases limiters.client.check call.clientNow ("client:" ++ call.clientId) with ⟨passed, client⟩
  cases passed <;> simp

theorem respond_limiters (std : Stdlib) (settings : PlatformSettings) (api : Api) (call : ExchangeCall) :
    (respond std settings.toSettings api call).2.limiters =
      (api.limiters.check call.clientNow call.ipNow call.clientId (call.clientHost.getD "unknown")).2 := by
  unfold respond
  rcases api.limiters.check call.clientNow call.ipNow call.clientId
    (call.clientHost.getD "unknown") with ⟨within, limiters⟩
  dsimp only
  split <;> rfl

theorem step_exchange_limiters (p : Platform) (call : ExchangeCall) :
    (step std lib settings p (.exchange call)).limiters =
      (p.limiters.check call.clientNow call.ipNow call.clientId (call.clientHost.getD "unknown")).2 := by
  rw [← respond_limiters std settings ⟨p.ledger.store, p.limiters⟩ call]
  simp only [step, serve]
  rcases respond std settings.toSettings ⟨p.ledger.store, p.limiters⟩ call with ⟨response, api⟩
  cases response <;> rfl

theorem endpoint_limiters (bearer : Bearer) (authorized : Except Refused Caller)
    (body : Caller → InSession Ledger Refused Reply) :
    (endpoint p bearer authorized body).2.limiters = p.limiters := by
  have hrefuse : ∀ (p : Platform) tenantId e, (refuse p bearer tenantId e).2.limiters = p.limiters := by
    intro p tenantId e
    cases e <;> rfl
  unfold endpoint
  cases authorized with
  | error e => exact hrefuse p none e
  | ok caller =>
    rcases hsession : session (body caller) p.ledger with ⟨r, ledger⟩
    simp only [hsession]
    cases r with
    | ok reply => rfl
    | error e => exact hrefuse _ _ e

/-- Nothing but an exchange moves the limiters. -/
theorem step_limiters {request : Request} (h : ∀ call, request ≠ .exchange call) :
    (step std lib settings p request).limiters = p.limiters := by
  cases request with
  | exchange call => exact absurd rfl (h call)
  | devToken call =>
    simp only [step, serve]
    split <;> rfl
  | create bearer body drawn now => exact endpoint_limiters bearer _ _
  | list bearer => exact endpoint_limiters bearer _ _
  | revoke bearer credentialId now => exact endpoint_limiters bearer _ _
  | access bearer required humanOnly => exact endpoint_limiters bearer _ _

/-! ## The attempts -/

theorem attempts_cons_of_ne (std : Stdlib) (lib : TokenLibrary π) (settings : PlatformSettings)
    (p : Platform) (requests : List Request) {request : Request} (h : ∀ call, request ≠ .exchange call) :
    attempts std lib settings p (request :: requests) =
        attempts std lib settings (step std lib settings p request) requests ∧
      ipChecks std lib settings p (request :: requests) =
        ipChecks std lib settings (step std lib settings p request) requests ∧
      exchanges (request :: requests) = exchanges requests := by
  cases request with
  | exchange call => exact absurd rfl (h call)
  | _ => exact ⟨rfl, rfl, rfl⟩

/-- What is checked is accepted by the limiter of the client ids. -/
theorem attempts_client (std : Stdlib) (lib : TokenLibrary π) (settings : PlatformSettings) (p : Platform) (requests : List Request) :
    ((attempts std lib settings p requests).map clientCheck).Sublist
      (p.limiters.client.accepted ((exchanges requests).map clientCheck)) := by
  induction requests generalizing p with
  | nil => exact List.Sublist.refl _
  | cons request requests ih =>
    have hrest := ih (step std lib settings p request)
    by_cases h : ∃ call, request = .exchange call
    · obtain ⟨call, rfl⟩ := h
      rw [step_exchange_limiters, check_client] at hrest
      show List.Sublist (List.map clientCheck (if _ then _ else _)) (RateLimiter.accepted _ (_ :: _))
      rw [RateLimiter.accepted]
      by_cases hwithin : withinLimits ⟨p.ledger.store, p.limiters⟩ call = true
      · rw [if_pos hwithin, if_pos ((within_iff _ _ _).1 hwithin).1]
        exact hrest.cons_cons _
      · rw [if_neg hwithin]
        split
        · exact hrest.cons _
        · exact hrest
    · have hne : ∀ call, request ≠ .exchange call := fun call he => h ⟨call, he⟩
      obtain ⟨hattempts, -, hexchanges⟩ := attempts_cons_of_ne std lib settings p
        requests hne
      rw [step_limiters hne] at hrest
      rwa [hattempts, hexchanges]

/-- What is checked is accepted by the limiter of the addresses, which not every exchange reaches. -/
theorem attempts_ip (std : Stdlib) (lib : TokenLibrary π) (settings : PlatformSettings) (p : Platform) (requests : List Request) :
    ((attempts std lib settings p requests).map ipCheck).Sublist
        (p.limiters.ip.accepted ((ipChecks std lib settings p requests).map ipCheck)) ∧
      (ipChecks std lib settings p requests).Sublist (exchanges requests) := by
  induction requests generalizing p with
  | nil => exact ⟨List.Sublist.refl _, List.Sublist.refl _⟩
  | cons request requests ih =>
    obtain ⟨hrest, hchecks⟩ := ih (step std lib settings p request)
    by_cases h : ∃ call, request = .exchange call
    · obtain ⟨call, rfl⟩ := h
      rw [step_exchange_limiters, check_ip] at hrest
      have hwithin := within_iff p.ledger.store p.limiters call
      show List.Sublist (List.map ipCheck (if _ then _ else _))
        (RateLimiter.accepted _ (List.map ipCheck (if _ then _ else _))) ∧ List.Sublist (if _ then _ else _) _
      by_cases hclient : p.limiters.client.returns (clientCheck call) = true
      · rw [if_pos hclient] at hrest
        rw [if_pos hclient, List.map_cons, RateLimiter.accepted]
        refine ⟨?_, hchecks.cons_cons _⟩
        by_cases hip : p.limiters.ip.returns (ipCheck call) = true
        · rw [if_pos (hwithin.2 ⟨hclient, hip⟩), if_pos hip]
          exact hrest.cons_cons _
        · rw [if_neg fun hw => hip (hwithin.1 hw).2, if_neg hip]
          exact hrest
      · rw [if_neg hclient] at hrest
        rw [if_neg hclient, if_neg fun hw => hclient (hwithin.1 hw).1]
        exact ⟨hrest, hchecks.cons _⟩
    · have hne : ∀ call, request ≠ .exchange call := fun call he => h ⟨call, he⟩
      obtain ⟨hattempts, hip, hexchanges⟩ := attempts_cons_of_ne std lib settings p
        requests hne
      rw [step_limiters hne] at hrest
      rw [hattempts, hip, hexchanges]
      exact ⟨hrest, hchecks⟩

/-- The calls of a key that meet `P`, among those that a limiter accepts. -/
theorem filter_length_le {limiter : RateLimiter} {check : ExchangeCall → RateLimiter.Call}
    {calls : List ExchangeCall} {checks : List RateLimiter.Call} (key : String) (a b : ℚ)
    (P : ExchangeCall → Bool) (hsub : (calls.map check).Sublist (limiter.accepted checks))
    (hP : ∀ call, P call = true → (check call).key = key ∧ a ≤ (check call).now ∧ (check call).now ≤ b)
    (hwindow : 0 < limiter.windowSeconds) (hab : b - a ≤ limiter.windowSeconds)
    (hclock : checks.Pairwise (·.now ≤ ·.now)) :
    (calls.filter P).length ≤ 2 * limiter.maxRequests := by
  have hfiltered : ((calls.filter P).map check).Sublist ((limiter.accepted checks).filter
      fun c => c.key = key ∧ a ≤ c.now ∧ c.now ≤ b) := by
    have hall : ∀ c ∈ (calls.filter P).map check, (decide (c.key = key ∧ a ≤ c.now ∧ c.now ≤ b)) = true := by
      intro c hc
      obtain ⟨call, hcall, rfl⟩ := List.mem_map.1 hc
      exact decide_eq_true (hP call (List.mem_filter.1 hcall).2)
    rw [← List.filter_eq_self.2 hall]
    exact (List.Sublist.trans (List.filter_sublist.map check) hsub).filter _
  calc (calls.filter P).length = ((calls.filter P).map check).length := (List.length_map _).symm
    _ ≤ _ := hfiltered.length_le
    _ ≤ 2 * limiter.maxRequests := RateLimiter.accepted_of_interval hwindow hab hclock

/-- The limits of the endpoint, over whatever the limiters have counted before. -/
structure Configured (limiters : Limiters) : Prop where
  client : limiters.client.maxRequests = 5 ∧ limiters.client.windowSeconds = 60
  ip : limiters.ip.maxRequests = 20 ∧ limiters.ip.windowSeconds = 60

/-- Whatever else is requested, in no minute is the secret of one client id checked more than ten times,
nor more than forty secrets for one address. -/
theorem exchange_attempts_bounded (start : Platform) (hconfigured : Configured start.limiters)
    (requests : List Request)
    (hclock : (exchanges requests).Pairwise fun x y => x.clientNow ≤ y.clientNow ∧ x.ipNow ≤ y.ipNow)
    (a b : ℚ) (hab : b - a ≤ 60) :
    (∀ clientId, ((attempts std lib settings start requests).filter fun call =>
      call.clientId = clientId ∧ a ≤ call.clientNow ∧ call.clientNow ≤ b).length ≤ 10) ∧
    ∀ address, ((attempts std lib settings start requests).filter fun call =>
      call.clientHost.getD "unknown" = address ∧ a ≤ call.ipNow ∧ call.ipNow ≤ b).length ≤ 40 := by
  obtain ⟨hclientMax, hclientWindow⟩ := hconfigured.client
  obtain ⟨hipMax, hipWindow⟩ := hconfigured.ip
  obtain ⟨hip, hchecks⟩ := attempts_ip std lib settings start requests
  constructor
  · intro clientId
    have hbound := filter_length_le ("client:" ++ clientId) a b
      (fun call => call.clientId = clientId ∧ a ≤ call.clientNow ∧ call.clientNow ≤ b)
      (attempts_client std lib settings start requests)
      (fun call h => by
        obtain ⟨hid, hin⟩ := of_decide_eq_true h
        exact ⟨by rw [clientCheck, hid], hin⟩)
      (by rw [hclientWindow]; decide) (by rwa [hclientWindow])
      (List.pairwise_map.2 (hclock.imp fun h => h.1))
    rwa [hclientMax] at hbound
  · intro address
    have hbound := filter_length_le ("ip:" ++ address) a b
      (fun call => call.clientHost.getD "unknown" = address ∧ a ≤ call.ipNow ∧ call.ipNow ≤ b)
      hip
      (fun call h => by
        obtain ⟨hid, hin⟩ := of_decide_eq_true h
        exact ⟨by rw [ipCheck, hid], hin⟩)
      (by rw [hipWindow]; decide) (by rwa [hipWindow])
      (List.pairwise_map.2 ((hclock.sublist hchecks).imp fun h => h.2))
    rwa [hipMax] at hbound

end

/-- A dozen wrong secrets for one client, at one time. -/
theorem exchange_attempts_bounded_dozen :
    ((attempts HermesRpt.Sample.std
      (⟨fun _ _ _ _ _ => .error .PyJWTError, fun _ => none⟩ : TokenLibrary Unit) { Sample.settings with } {} (List.replicate 12 (.exchange Sample.wrongSecret))).filter fun call =>
        call.clientId = "hrpt_svc_a" ∧ 60 ≤ call.clientNow ∧ call.clientNow ≤ 120).length ≤ 10 :=
  (exchange_attempts_bounded {} ⟨⟨rfl, rfl⟩, ⟨rfl, rfl⟩⟩ (List.replicate 12 (.exchange Sample.wrongSecret))
    (by decide +kernel) 60 120 (by decide +kernel)).1 "hrpt_svc_a"

end Auth

end HermesRpt
