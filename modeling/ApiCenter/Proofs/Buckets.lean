import ApiCenter.Model.Throttler

namespace ApiCenter.Proofs.Buckets

variable {validateToken : String → Except Thrown JwtClaims}

/-- The guards accept the request with claims that carry `tribe`. -/
def AcceptedFor (validateToken : String → Except Thrown JwtClaims) (request : Request)
    (tribe : String) : Prop :=
  ∃ req, (runGuards validateToken request).2 = .ok req ∧ req.tribeId = .value tribe

/-- Two accepted requests share a bucket exactly when they are of one tribe. -/
def BucketedByTribe (validateToken : String → Except Thrown JwtClaims) (a b : Request) : Prop :=
  ∀ tribeA tribeB, AcceptedFor validateToken a tribeA → AcceptedFor validateToken b tribeB →
    ((runGuards validateToken a).1 = (runGuards validateToken b).1 ↔ tribeA = tribeB)

/-- The `x-tribe-id` the client sends, unless it is empty. -/
def sentTribe (request : Request) : Option String := request.xTribeId.filter (· ≠ "")

/-- Where the request seems to come from. -/
def address (request : Request) : String :=
  match request.ip, request.remoteAddress with
  | some ip, _ => ip
  | none, some remote => remote
  | none, none => "unknown"

/-- The requests send one `x-tribe-id`; a request without one counts by its address. -/
def SameSource (a b : Request) : Prop :=
  match sentTribe a, sentTribe b with
  | some x, some y => x = y
  | some x, none => x = address b
  | none, some y => address a = y
  | none, none => address a = address b

theorem address_eq (request : Request) :
    (request.ip.orElse fun _ => request.remoteAddress).getD "unknown" = address request := by
  unfold address
  cases request.ip with
  | some ip => rfl
  | none => cases request.remoteAddress <;> rfl

/-- Nothing is attached yet when the tracker is computed, so no claim enters it. -/
theorem tracker_eq (request : Request) :
    (runGuards validateToken request).1 = (sentTribe request).getD (address request) := by
  unfold runGuards TribeThrottlerGuard.getTracker sentTribe
  cases hx : request.xTribeId.filter (· ≠ "") with
  | some x => simp
  | none =>
    simp only [Option.bind_none, Option.getD_none]
    exact address_eq request

theorem tracker_eq_iff (a b : Request) :
    (runGuards validateToken a).1 = (runGuards validateToken b).1 ↔ SameSource a b := by
  rw [tracker_eq, tracker_eq]
  unfold SameSource
  cases sentTribe a <;> cases sentTribe b <;> rfl

/-- Buckets follow the tribe on just those pairs of requests whose headers and
addresses happen to do so. -/
theorem bucketed_by_tribe_iff (validateToken : String → Except Thrown JwtClaims) (a b : Request) :
    BucketedByTribe validateToken a b ↔
      ∀ tribeA tribeB, AcceptedFor validateToken a tribeA → AcceptedFor validateToken b tribeB →
        (SameSource a b ↔ tribeA = tribeB) := by
  constructor
  · intro h tribeA tribeB ha hb
    exact (tracker_eq_iff a b).symm.trans (h tribeA tribeB ha hb)
  · intro h tribeA tribeB ha hb
    rw [tracker_eq_iff]
    exact h tribeA tribeB ha hb

theorem accepted_congr (a b : Request) (h : a.authorization = b.authorization) (tribe : String) :
    AcceptedFor validateToken a tribe → AcceptedFor validateToken b tribe := by
  intro hex
  obtain ⟨req, hreq, htribe⟩ := hex
  obtain ⟨token, claims, ht, hc, rfl⟩ := JwtAuthGuard.canActivate_ok hreq
  refine ⟨{ b with user := some claims, tribeId := claims.tribeId }, ?_, htribe⟩
  have hne : token ≠ "" := by
    intro heq
    subst heq
    simp [runGuards, JwtAuthGuard.canActivate, ht] at hreq
  simp [runGuards, JwtAuthGuard.canActivate, ← h, ht, hne, hc]

/-- Whatever its token, a client moves to any bucket it likes by naming it. -/
theorem client_picks_bucket (request : Request) {bucket : String} (hb : bucket ≠ "")
    (tribe : String) (h : AcceptedFor validateToken request tribe) :
    AcceptedFor validateToken { request with xTribeId := some bucket } tribe ∧
      (runGuards validateToken { request with xTribeId := some bucket }).1 = bucket := by
  constructor
  · exact accepted_congr request { request with xTribeId := some bucket } rfl tribe h
  · rw [tracker_eq]
    simp [sentTribe, Option.filter, hb]

def ordersOnly (token : String) : Except Thrown JwtClaims :=
  if token = "t" then .ok { sub := .value "orders", tribeId := .value "orders" }
  else .error (.error "signature verification failed")

def bare : Request where
  method := "GET"
  path := "/api/v1/tribes/billing/invoices"
  authorization := some "Bearer t"
  xTribeId := none
  ip := some "10.0.0.1"
  remoteAddress := none

/-- One token, two buckets: the second request names another tribe in `x-tribe-id`. -/
theorem header_changes_bucket :
    AcceptedFor ordersOnly bare "orders" ∧
    AcceptedFor ordersOnly { bare with xTribeId := some "billing" } "orders" ∧
    ¬ BucketedByTribe ordersOnly bare { bare with xTribeId := some "billing" } := by
  have ha : AcceptedFor ordersOnly bare "orders" := ⟨_, rfl, rfl⟩
  have hb : AcceptedFor ordersOnly { bare with xTribeId := some "billing" } "orders" :=
    ⟨_, rfl, rfl⟩
  refine ⟨ha, hb, ?_⟩
  intro h
  have heq := (h "orders" "orders" ha hb).mpr rfl
  revert heq
  decide

end ApiCenter.Proofs.Buckets
