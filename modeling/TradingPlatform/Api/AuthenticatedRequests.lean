/-
  TradingPlatform.Api.AuthenticatedRequests

  A request to the strategies routes as it arrives: `get_current_user` of
  `app/api/dependencies/auth.py` asks Supabase who presents the token
  (`app/services/supabase_auth.py`), and the route runs for that user over a
  database that may fail.

  What Supabase answers, and what the database does, are part of a call, so they
  may differ from one call to the next.

  - `respond_refines`: the table of a run is that of the verified calls whose
    write was committed, without any faults.
  - `respond_isolated`: only the calls that were verified as a user's can change
    what this user stores and is told.
-/

import TradingPlatform.Api.DatabaseFaults

namespace TradingPlatform

-- ============================================================================
-- Supabase
-- ============================================================================

namespace Services

open Pydantic

/-- The user that Supabase reported for a token. -/
structure AuthenticatedUser where
  id : String
  email : Option String
  role : String
deriving DecidableEq, Repr

/-- Other fields of the user object are ignored; `uuid` reads an id. -/
def AuthenticatedUser.modelValidate (uuid : Json → Option String) (json : Json) :
    Except ValidationError AuthenticatedUser := do
  let entries ← dict json
  let id ← required entries "id" (converted uuid)
  let email ← withDefault entries "email" none (nullable string)
  let role ← required entries "role" string
  return ⟨id, email, role⟩

/-- What the request to `/auth/v1/user` comes to: an `httpx.HTTPError`, another exception of the
    HTTP client, or a response, whose body may not be JSON. -/
inductive AuthResponse where
  | httpError
  | otherError
  | response (statusCode : Nat) (json : Option Json)
deriving Repr

/-- What `get_user` raises: `InvalidAccessTokenError`, `AuthServiceUnavailableError`, or an error
    that `get_current_user` does not catch. -/
inductive AuthError where
  | invalidAccessToken
  | authServiceUnavailable
  | otherError
deriving DecidableEq, Repr

/-- `SupabaseAuthClient.get_user` -/
def getUser (uuid : Json → Option String) : AuthResponse → Except AuthError AuthenticatedUser
  | .httpError => .error .authServiceUnavailable
  | .otherError => .error .otherError
  | .response statusCode json =>
      if statusCode = 401 ∨ statusCode = 403 then
        .error .invalidAccessToken
      else if ¬ (200 ≤ statusCode ∧ statusCode ≤ 299) then
        .error .authServiceUnavailable
      else
        match json with
        | none => .error .authServiceUnavailable
        | some json =>
            match AuthenticatedUser.modelValidate uuid json with
            | .ok user => .ok user
            | .error _ => .error .authServiceUnavailable

end Services

namespace Api

open Pydantic Schemas Services

-- ============================================================================
-- Requests
-- ============================================================================

/-- A request with the token that `HTTPBearer` found in it, what Supabase answers to that
    token, and the fault that the route meets. -/
structure HttpCall where
  credentials : Option String
  authResponse : AuthResponse
  fault : Option DatabaseFault
  newId : StrategyId
  now : Timestamp
  request : Request
deriving Repr

/-- The call of a user. -/
def HttpCall.toCall (call : HttpCall) (user : UserId) : Call :=
  ⟨user, call.newId, call.now, call.request⟩

/-- The answer of a route, or that of the authentication in front of it. -/
inductive HttpResponse where
  | routed (response : Response)
  | unauthorized
  | authUnavailable
  | internalServerError
deriving Repr

/-- Status and detail of the answers that no route gives; an exception that nothing handles is
    answered by the server itself.  A 401 has the header `WWW-Authenticate: Bearer`. -/
def HttpResponse.detail : HttpResponse → Option (Nat × String)
  | .routed _ => none
  | .unauthorized => some (401, "Invalid or missing authentication credentials.")
  | .authUnavailable => some (503, "Authentication service is temporarily unavailable.")
  | .internalServerError => some (500, "Internal Server Error")

/-- `get_current_user`; without a token, Supabase is not asked. -/
def getCurrentUser (uuid : Json → Option String) (call : HttpCall) :
    Except HttpResponse AuthenticatedUser :=
  match call.credentials with
  | none => .error .unauthorized
  | some _ =>
      match getUser uuid call.authResponse with
      | .ok user => .ok user
      | .error .invalidAccessToken => .error .unauthorized
      | .error .authServiceUnavailable => .error .authUnavailable
      | .error .otherError => .error .internalServerError

section Respond

variable (uuid : Json → Option String) (reading : Reading) (rendering : Rendering)

/-- One request to the router. -/
def respond (call : HttpCall) (table : StrategyTable) : HttpResponse × StrategyTable :=
  match getCurrentUser uuid call with
  | .error answer => (answer, table)
  | .ok user =>
      let (response, table) :=
        handleFaulty call.fault reading rendering (call.toCall user.id) table
      (.routed response, table)

/-- The user whose token the call presents, as Supabase says. -/
def verifiedUser (call : HttpCall) : Option UserId :=
  match getCurrentUser uuid call with
  | .ok user => some user.id
  | .error _ => none

/-- What the call does to the table: the call of its verified user, if it is committed. -/
def effective (call : HttpCall) : Option Call :=
  (verifiedUser uuid call).bind fun user =>
    if Persists call.request call.fault then some (call.toCall user) else none

end Respond

-- ============================================================================
-- One request
-- ============================================================================

section One

variable {uuid : Json → Option String} {reading : Reading} {rendering : Rendering}
  {call : HttpCall} {user : UserId}

variable (reading rendering) in
/-- A verified call is routed, with its fault. -/
theorem respond_verified (h : verifiedUser uuid call = some user) (table : StrategyTable) :
    respond uuid reading rendering call table =
      (.routed (faultAnswer call.request call.fault
          (handle reading rendering (call.toCall user) table).1),
        if Persists call.request call.fault then
          (handle reading rendering (call.toCall user) table).2
        else table) := by
  unfold verifiedUser at h
  unfold respond
  cases hcurrent : getCurrentUser uuid call with
  | error answer =>
      rw [hcurrent] at h
      cases h
  | ok current =>
      rw [hcurrent] at h
      obtain rfl := Option.some.inj h
      dsimp only
      rw [handleFaulty_eq]
      rfl

variable (reading rendering) in
/-- Any other call is answered without a look at the table. -/
theorem respond_unverified (h : verifiedUser uuid call = none) :
    ∃ status detail answer, answer.detail = some (status, detail) ∧
      ∀ table, respond uuid reading rendering call table = (answer, table) := by
  unfold verifiedUser at h
  cases hcurrent : getCurrentUser uuid call with
  | ok current =>
      rw [hcurrent] at h
      cases h
  | error answer =>
      have hrespond : ∀ table, respond uuid reading rendering call table = (answer, table) :=
        fun table => by rw [respond, hcurrent]
      cases answer with
      | routed response =>
          unfold getCurrentUser at hcurrent
          split at hcurrent
          · cases hcurrent
          · split at hcurrent <;> cases hcurrent
      | unauthorized | authUnavailable | internalServerError =>
          exact ⟨_, _, _, rfl, hrespond⟩

variable (uuid reading rendering) in
theorem respond_table (call : HttpCall) (table : StrategyTable) :
    (respond uuid reading rendering call table).2 =
      (effective uuid call).elim table fun call => (handle reading rendering call table).2 := by
  unfold effective
  cases hverified : verifiedUser uuid call with
  | none =>
      obtain ⟨_, _, answer, -, hrespond⟩ := respond_unverified reading rendering hverified
      rw [hrespond]
      rfl
  | some user =>
      rw [respond_verified reading rendering hverified, Option.bind_some]
      split
      · rfl
      · rfl

end One

-- ============================================================================
-- Runs
-- ============================================================================

/-- A run ends in the table of the verified calls whose write was committed, run without any
    fault.  A verified call is answered there as without its fault, or by one of the two
    database errors, and a success says that its write is stored. -/
theorem respond_refines (uuid : Json → Option String) (reading : Reading)
    (rendering : Rendering) (calls : List HttpCall) (table : StrategyTable) :
    let after := (Service.run (respond uuid reading rendering) calls table).2
    after = (Service.run (handle reading rendering) (calls.filterMap (effective uuid)) table).2 ∧
    ∀ call user, verifiedUser uuid call = some user →
      let plain := handle reading rendering (call.toCall user) after
      let outcome := respond uuid reading rendering call after
      (outcome.1 = .routed plain.1 ∨ outcome.1 = .routed databaseError ∨
        outcome.1 = .routed constraintViolation) ∧
      (outcome.2 = plain.2 ∨ outcome.2 = after) ∧
      ∀ response, outcome.1 = .routed response → response.Success →
        outcome = (.routed plain.1, plain.2) := by
  refine ⟨Service.run_filterMap _ _ _ (respond_table uuid reading rendering) calls table, ?_⟩
  intro call user hverified
  rw [respond_verified reading rendering hverified]
  refine ⟨?_, ?_, fun response hresponse hsuccess => ?_⟩
  · rcases faultAnswer_cases call.request call.fault _ with heq | heq | heq
    · exact .inl (congrArg _ heq)
    · exact .inr (.inl (congrArg _ heq))
    · exact .inr (.inr (congrArg _ heq))
  · dsimp only
    split
    · exact .inl rfl
    · exact .inr rfl
  · obtain rfl := HttpResponse.routed.inj hresponse
    obtain ⟨hpersists, heq⟩ := faultAnswer_success hsuccess
    rw [heq, if_pos hpersists]

-- ============================================================================
-- Isolation
-- ============================================================================

/-- The new ids of the calls are pairwise different and not in the table. -/
structure FreshHttpIds (calls : List HttpCall) (table : StrategyTable) : Prop where
  nodup : (calls.map (·.newId)).Nodup
  unused : ∀ call ∈ calls, table.get? call.newId = none

section Isolation

variable {uuid : Json → Option String} {reading : Reading} {rendering : Rendering}
  {call : HttpCall} {table table' : StrategyTable} {user : UserId}

/-- The ids still to come stay fresh. -/
theorem FreshHttpIds.tail {rest : List HttpCall} (h : FreshHttpIds (call :: rest) table) :
    FreshHttpIds rest (respond uuid reading rendering call table).2 := by
  obtain ⟨hhead, hnodup⟩ := List.nodup_cons.mp h.nodup
  refine ⟨hnodup, fun next hnext => ?_⟩
  have hunused := h.unused next (List.mem_cons_of_mem _ hnext)
  rw [respond_table]
  unfold effective
  cases verifiedUser uuid call with
  | none => exact hunused
  | some user =>
      rw [Option.bind_some]
      split
      · refine Table.get?_eq_none.mpr fun row hrow hid => ?_
        rcases row_of_handle hrow with ⟨before, hbefore, hsame, -⟩ | hnew
        · exact Table.get?_eq_none.mp hunused before hbefore (hsame.trans hid)
        · exact hhead (List.mem_map.mpr ⟨next, hnext, hid.symm.trans hnew⟩)
      · exact hunused

theorem FreshHttpIds.filter {calls : List HttpCall} (h : FreshHttpIds calls table)
    (p : HttpCall → Bool) : FreshHttpIds (calls.filter p) table where
  nodup := h.nodup.sublist (List.filter_sublist.map _)
  unused := fun call hcall => h.unused call (List.mem_of_mem_filter hcall)

variable (reading rendering) in
/-- A call of the user, in tables with the same rows of the user. -/
theorem respond_own (hverified : verifiedUser uuid call = some user)
    (hsame : ownedBy user table = ownedBy user table')
    (hfresh : table.get? call.newId = none) (hfresh' : table'.get? call.newId = none) :
    (respond uuid reading rendering call table).1 =
        (respond uuid reading rendering call table').1 ∧
      ownedBy user (respond uuid reading rendering call table).2 =
        ownedBy user (respond uuid reading rendering call table').2 := by
  obtain ⟨hanswer, hrows⟩ :=
    handle_own reading rendering (call.toCall user) hsame hfresh hfresh'
  rw [respond_verified reading rendering hverified, respond_verified reading rendering hverified]
  refine ⟨?_, ?_⟩
  · dsimp only
    rw [hanswer]
  · dsimp only
    split
    · exact hrows
    · exact hsame

/-- A call that was not verified as the user's leaves the rows of the user. -/
theorem ownedBy_respond_of_ne (hother : verifiedUser uuid call ≠ some user) :
    ownedBy user (respond uuid reading rendering call table).2 = ownedBy user table := by
  rw [respond_table]
  unfold effective
  cases hverified : verifiedUser uuid call with
  | none => rfl
  | some current =>
      rw [Option.bind_some]
      split
      · refine ownedBy_handle_of_ne fun heq => ?_
        rw [hverified] at hother
        exact hother (congrArg some heq)
      · rfl

end Isolation

/-- The tables of a run and of the run with one user's verified calls only. -/
structure SameVerified (uuid : Json → Option String) (user : UserId) (calls : List HttpCall)
    (table table' : StrategyTable) : Prop where
  same : ownedBy user table = ownedBy user table'
  fresh : FreshHttpIds calls table
  fresh' : FreshHttpIds (calls.filter fun call => verifiedUser uuid call = some user) table'

/-- Whatever tokens the other calls present, whatever Supabase answers and whatever faults the
    database has: the calls that were verified as a user's are answered as if there had been no
    others, and the user's rows are what these calls made of them.  A call that was not verified
    gets one of three fixed answers, the same for every table, and changes nothing. -/
theorem respond_isolated (uuid : Json → Option String) (reading : Reading)
    (rendering : Rendering) (calls : List HttpCall) (table : StrategyTable) (user : UserId)
    (hfresh : FreshHttpIds calls table) :
    Service.answersTo (verifiedUser uuid) (some user)
        (Service.run (respond uuid reading rendering) calls table).1 =
      (Service.run (respond uuid reading rendering)
        (calls.filter fun call => verifiedUser uuid call = some user) table).1 ∧
    ownedBy user (Service.run (respond uuid reading rendering) calls table).2 =
      ownedBy user (Service.run (respond uuid reading rendering)
        (calls.filter fun call => verifiedUser uuid call = some user) table).2 ∧
    ((∀ call ∈ calls, verifiedUser uuid call ≠ some user) →
      ownedBy user (Service.run (respond uuid reading rendering) calls table).2 =
        ownedBy user table) ∧
    ∀ call, verifiedUser uuid call = none →
      ∃ status detail answer, HttpResponse.detail answer = some (status, detail) ∧
        ∀ state, respond uuid reading rendering call state = (answer, state) := by
  obtain ⟨hanswers, hfinal⟩ := Service.run_purge (respond uuid reading rendering)
    (verifiedUser uuid) (some user) (SameVerified uuid user)
    (fun call rest state state' howner hsame => by
      have hkept : (call :: rest).filter (fun call => verifiedUser uuid call = some user) =
          call :: rest.filter fun call => verifiedUser uuid call = some user := by
        simp [howner]
      have hfresh' := hkept ▸ hsame.fresh'
      obtain ⟨hresponse, hrows⟩ := respond_own reading rendering howner hsame.same
        (hsame.fresh.unused call (List.mem_cons_self ..))
        (hfresh'.unused call (List.mem_cons_self ..))
      exact ⟨hresponse, hrows, hsame.fresh.tail, hfresh'.tail⟩)
    (fun call rest state state' howner hsame => by
      have hpurged : (call :: rest).filter (fun call => verifiedUser uuid call = some user) =
          rest.filter fun call => verifiedUser uuid call = some user := by
        simp [howner]
      exact ⟨(ownedBy_respond_of_ne howner).trans hsame.same, hsame.fresh.tail,
        hpurged ▸ hsame.fresh'⟩)
    calls table table ⟨rfl, hfresh, hfresh.filter _⟩
  refine ⟨hanswers, hfinal.same, fun hnone => ?_, fun call hverified =>
    respond_unverified reading rendering hverified⟩
  have hpurged : (calls.filter fun call => verifiedUser uuid call = some user) = [] :=
    List.filter_eq_nil_iff.mpr fun call hcall => by simpa using hnone call hcall
  rw [hfinal.same, hpurged]
  rfl

-- ============================================================================
-- A worked example
-- ============================================================================

/-- A text is an id. -/
def textId : Json → Option String
  | .str value => some value
  | _ => none

/-- A call with a token that Supabase verifies as a user's. -/
def HttpCall.of (user : UserId) (fault : Option DatabaseFault) (newId : StrategyId)
    (request : Request) : HttpCall where
  credentials := some "token"
  authResponse := .response 200
    (some (.object [("id", .str user), ("role", .str "authenticated")]))
  fault := fault
  newId := newId
  now := 0
  request := request

/-- A body that the create route accepts. -/
def crossoverBody : Json :=
  .object [("name", .str "Crossover"), ("source_text", .str "Buy SPY.")]

/-- Alice's save is stored although its refresh raises; an expired token of hers, and a failed
    commit of Bob, change nothing. -/
def faultyCalls : List HttpCall :=
  [.of "alice" (some .refresh) 1 (.createStrategy crossoverBody),
    { HttpCall.of "alice" none 2 (.deleteStrategy 1) with authResponse := .response 401 none },
    .of "bob" (some (.commit false)) 3 (.createStrategy crossoverBody)]

theorem respond_refines_faulty :
    (((Service.run (respond textId plainReading plainRendering) faultyCalls emptyTable).2.rows.map
      fun row => (row.id, row.userId)) = [(1, "alice")]) := by
  rw [(respond_refines textId plainReading plainRendering faultyCalls emptyTable).1]
  decide +kernel

/-- Alice is answered as if she had made her first call alone. -/
theorem respond_isolated_faulty :
    Service.answersTo (verifiedUser textId) (some "alice")
        (Service.run (respond textId plainReading plainRendering) faultyCalls emptyTable).1 =
      (Service.run (respond textId plainReading plainRendering)
        (faultyCalls.take 1) emptyTable).1 ∧
    ownedBy "alice" (Service.run (respond textId plainReading plainRendering) faultyCalls
        emptyTable).2 =
      ownedBy "alice" (Service.run (respond textId plainReading plainRendering)
        (faultyCalls.take 1) emptyTable).2 := by
  have hverified : (faultyCalls.filter fun call => verifiedUser textId call = some "alice") =
      faultyCalls.take 1 := by rfl
  obtain ⟨hanswers, hrows, -⟩ := respond_isolated textId plainReading plainRendering faultyCalls
    emptyTable "alice" ⟨by decide, fun _ _ => rfl⟩
  rw [hverified] at hanswers hrows
  exact ⟨hanswers, hrows⟩

end Api
end TradingPlatform
