/-
Sessions do not see each other.  What a session answers between its opening and its
closing is what a pipeline alone would answer, whatever is asked of the other ones
in between; and a registry holds exactly the sessions that were opened and not
closed.
-/
import Credence.Proofs.Registry.Sessions

namespace Credence

namespace Registry

/-- The id that a request draws.  There is none if the settings do not hold. -/
def Request.newId? : Request → Option SessionId
  | .openSession id _ settings =>
      if settings.problem? = none then some id else none
  | _ => none

/-- The ids that some requests draw. -/
def newIds (requests : List Request) : List SessionId :=
  requests.filterMap Request.newId?

/-- The session that a response says was opened. -/
def Response.opened? : Except Error Response → Option SessionId
  | .ok (.opened id) => some id
  | _ => none

/-- The session that a request has closed, if it was answered so. -/
def Request.closed? : Request → Except Error Response → Option SessionId
  | .closeSession id, .ok _ => some id
  | _, _ => none

/-- The sessions that some responses say were opened. -/
def openedIds (responses : List (Except Error Response)) : List SessionId :=
  responses.filterMap Response.opened?

/-- The sessions that some requests have closed. -/
def closedIds (requests : List Request)
    (responses : List (Except Error Response)) : List SessionId :=
  (requests.zip responses).filterMap fun x => x.1.closed? x.2

/-- What a request asks of the pipeline of a session. -/
def Request.operation? (id : SessionId) : Request → Option Pipeline.Operation
  | .train other _ records =>
      if other = id then some (.train records) else none
  | .predict other text => if other = id then some (.predict text) else none
  | _ => none

/-- What some requests ask of the pipeline of a session. -/
def operationsOn (id : SessionId) (requests : List Request) :
    List Pipeline.Operation :=
  requests.filterMap (·.operation? id)

/-- The responses to what some requests ask of the pipeline of a session. -/
def responsesOn (id : SessionId) (requests : List Request)
    (responses : List (Except Error Response)) :
    List (Except Error Response) :=
  (requests.zip responses).filterMap fun x =>
    (x.1.operation? id).map fun _ => x.2

theorem openedIds_cons (response : Except Error Response)
    (responses : List (Except Error Response)) :
    openedIds (response :: responses) =
      (Response.opened? response).toList ++ openedIds responses := by
  rw [openedIds, List.filterMap_cons]
  cases Response.opened? response <;> rfl

theorem closedIds_cons (request : Request) (requests : List Request)
    (response : Except Error Response)
    (responses : List (Except Error Response)) :
    closedIds (request :: requests) (response :: responses) =
      (request.closed? response).toList ++ closedIds requests responses := by
  rw [closedIds, List.zip_cons_cons, List.filterMap_cons]
  cases request.closed? response <;> rfl

/-- What is said after the last request does not count. -/
theorem responsesOn_append (id : SessionId) {requests : List Request}
    {responses : List (Except Error Response)}
    (hlength : responses.length = requests.length)
    (others : List (Except Error Response)) :
    responsesOn id requests (responses ++ others) =
      responsesOn id requests responses := by
  have hzip : (requests ++ []).zip (responses ++ others) =
      requests.zip responses ++ [].zip others :=
    List.zip_append hlength.symm
  rw [List.append_nil, List.zip_nil_left, List.append_nil] at hzip
  rw [responsesOn, hzip, responsesOn]

section run

variable (r : Registry)

theorem run_cons (request : Request) (requests : List Request) :
    r.run (request :: requests) =
      ((r.perform request).1 :: ((r.perform request).2.run requests).1,
        ((r.perform request).2.run requests).2) := rfl

theorem run_append (requests others : List Request) :
    r.run (requests ++ others) =
      ((r.run requests).1 ++ ((r.run requests).2.run others).1,
        ((r.run requests).2.run others).2) := by
  induction requests generalizing r with
  | nil => rfl
  | cons request requests ih =>
      rw [List.cons_append, run_cons, ih, run_cons]
      rfl

theorem length_run (requests : List Request) :
    (r.run requests).1.length = requests.length := by
  induction requests generalizing r with
  | nil => rfl
  | cons request requests ih =>
      rw [run_cons, List.length_cons, ih, List.length_cons]

end run

theorem Request.newId?_eq_none (request : Request) {id : SessionId}
    (h : request.session? = some id) : request.newId? = none := by
  cases request with
  | openSession other kind settings => cases h
  | _ => rfl

theorem Request.closed?_error (request : Request) (e : Error) :
    request.closed? (.error e) = none := by
  cases request <;> rfl

/-- Everything that a request can make of a registry. -/
inductive Effect (r : Registry) :
    Request → Except Error Response → Registry → Prop
  | opened {id : SessionId} {kind : ModelKind} {settings : Settings}
      {p : Pipeline} (hmake : Pipeline.make kind settings = .ok p) :
      Effect r (.openSession id kind settings) (.ok (.opened id)) (r.insert id p)
  | trained {id : SessionId} {fallback : UInt64} {records : List Record}
      {p next : Pipeline} {answer : Except Error Pipeline.Answer}
      (hfound : r.get? id = some p)
      (hnext : p.perform fallback (.train records) = (answer, next)) :
      Effect r (.train id fallback records) (answer.map .answered)
        (r.insert id next)
  | closed {id : SessionId} {p : Pipeline} (hfound : r.get? id = some p) :
      Effect r (.closeSession id) (.ok .closed) (r.remove id).2
  | unchanged {request : Request} {response : Except Error Response}
      (hnew : request.newId? = none)
      (hopened : Response.opened? response = none)
      (hclosed : request.closed? response = none) :
      Effect r request response r

theorem effect_perform (r : Registry) (request : Request) :
    Effect r request (r.perform request).1 (r.perform request).2 := by
  have hnone {id : SessionId} (hsession : request.session? = some id)
      (h : r.get? id = none) :
      Effect r request (r.perform request).1 (r.perform request).2 := by
    rw [perform_of_get?_eq_none h hsession]
    exact .unchanged (request.newId?_eq_none hsession) rfl
      (request.closed?_error _)
  cases request with
  | openSession id kind settings =>
      cases hproblem : settings.problem? with
      | none =>
          obtain ⟨p, hp⟩ : ∃ p, Pipeline.make kind settings = .ok p :=
            ⟨⟨kind, settings, hproblem, .start⟩,
              Pipeline.make_eq_ok_iff.mpr ⟨rfl, rfl, rfl⟩⟩
          rw [perform_open r hp]
          exact .opened hp
      | some problem =>
          have hnew : (Request.openSession id kind settings).newId? = none := by
            simp [Request.newId?, hproblem]
          rw [perform_open_of_problem r id kind hproblem]
          exact .unchanged hnew rfl rfl
  | get id =>
      cases hp : r.get? id with
      | none => exact hnone rfl hp
      | some p =>
          rw [perform_get hp]
          exact .unchanged rfl rfl rfl
  | train id fallback records =>
      cases hp : r.get? id with
      | none => exact hnone rfl hp
      | some p =>
          rw [perform_train hp]
          exact .trained hp rfl
  | predict id text =>
      cases hp : r.get? id with
      | none => exact hnone rfl hp
      | some p =>
          rw [perform_predict hp text 0]
          refine .unchanged rfl ?_ rfl
          cases (p.perform 0 (.predict text)).1 with
          | ok answer => rfl
          | error e => rfl
  | closeSession id =>
      cases hp : r.get? id with
      | none => exact hnone rfl hp
      | some p =>
          rw [perform_close hp]
          exact .closed hp
  | size => exact .unchanged rfl rfl rfl
  | ids => exact .unchanged rfl rfl rfl

theorem Effect.opened?_eq {r next : Registry} {request : Request}
    {response : Except Error Response} (heffect : Effect r request response next) :
    Response.opened? response = request.newId? := by
  cases heffect with
  | @opened id kind settings p hmake =>
      obtain ⟨-, hsettings, -⟩ := Pipeline.make_eq_ok_iff.mp hmake
      have hvalid : settings.problem? = none := hsettings ▸ p.valid
      rw [Request.newId?, if_pos hvalid]
      rfl
  | @trained id fallback records p next answer hfound hnext =>
      cases answer with
      | ok answer => rfl
      | error e => rfl
  | closed hfound => rfl
  | unchanged hnew hopened hclosed => rw [hnew, hopened]

/-- Sessions are opened under the ids that are drawn. -/
theorem openedIds_run (r : Registry) (requests : List Request) :
    openedIds (r.run requests).1 = newIds requests := by
  induction requests generalizing r with
  | nil => rfl
  | cons request requests ih =>
      rw [run_cons, openedIds, List.filterMap_cons, newIds, List.filterMap_cons,
        (effect_perform r request).opened?_eq]
      cases request.newId? with
      | none => exact ih _
      | some id => exact congrArg (id :: ·) (ih _)

/-- A registry holds the sessions that were opened and not closed, in order. -/
structure Tracks (opened closed : List SessionId) (r : Registry) : Prop where
  ordered : r.ids.Pairwise SessionId.Before
  mem_ids_iff : ∀ id, id ∈ r.ids ↔ id ∈ opened ∧ id ∉ closed
  nodup_closed : closed.Nodup
  closed_subset : ∀ id ∈ closed, id ∈ opened

theorem tracks_empty : Tracks [] [] empty where
  ordered := List.Pairwise.nil
  mem_ids_iff := by simp [empty, ids]
  nodup_closed := List.nodup_nil
  closed_subset := nofun

section tracks

variable {opened closed : List SessionId} {r : Registry} {id : SessionId}

theorem Tracks.insert_new (htracks : Tracks opened closed r)
    (hnew : id ∉ opened) (p : Pipeline) :
    Tracks (opened ++ [id]) closed (r.insert id p) where
  ordered := pairwise_insertInto id p htracks.ordered
  mem_ids_iff := by
    intro other
    rw [mem_ids_insert, htracks.mem_ids_iff, List.mem_append,
      List.mem_singleton]
    constructor
    · rintro (rfl | ⟨hopened, hclosed⟩)
      · exact ⟨Or.inr rfl, fun h => hnew (htracks.closed_subset _ h)⟩
      · exact ⟨Or.inl hopened, hclosed⟩
    · rintro ⟨hopened | rfl, hclosed⟩
      · exact Or.inr ⟨hopened, hclosed⟩
      · exact Or.inl rfl
  nodup_closed := htracks.nodup_closed
  closed_subset := fun other hother =>
    List.mem_append_left _ (htracks.closed_subset other hother)

theorem Tracks.insert_old (htracks : Tracks opened closed r)
    (hold : id ∈ r.ids) (p : Pipeline) :
    Tracks opened closed (r.insert id p) where
  ordered := pairwise_insertInto id p htracks.ordered
  mem_ids_iff := by
    intro other
    rw [mem_ids_insert, ← htracks.mem_ids_iff]
    constructor
    · rintro (rfl | hother)
      · exact hold
      · exact hother
    · exact Or.inr
  nodup_closed := htracks.nodup_closed
  closed_subset := htracks.closed_subset

theorem Tracks.remove (htracks : Tracks opened closed r) (hold : id ∈ r.ids) :
    Tracks opened (closed ++ [id]) (r.remove id).2 where
  ordered := pairwise_ids_remove r id htracks.ordered
  mem_ids_iff := by
    intro other
    rw [mem_ids_remove, htracks.mem_ids_iff, List.mem_append,
      List.mem_singleton, not_or]
    constructor
    · rintro ⟨hne, hopened, hclosed⟩
      exact ⟨hopened, hclosed, hne⟩
    · rintro ⟨hopened, hclosed, hne⟩
      exact ⟨hne, hopened, hclosed⟩
  nodup_closed := by
    have hid := ((htracks.mem_ids_iff id).mp hold).2
    exact List.nodup_append.mpr ⟨htracks.nodup_closed, List.nodup_singleton id,
      fun other hother x hx => by
        rw [List.mem_singleton.mp hx]
        rintro rfl
        exact hid hother⟩
  closed_subset := by
    intro other hother
    rcases List.mem_append.mp hother with hother | hother
    · exact htracks.closed_subset other hother
    · rw [List.mem_singleton.mp hother]
      exact ((htracks.mem_ids_iff id).mp hold).1

/-- Ids are drawn afresh, so none is opened that was opened before. -/
theorem Tracks.step (htracks : Tracks opened closed r) {request : Request}
    {response : Except Error Response} {next : Registry}
    (heffect : Effect r request response next)
    (hfresh : ∀ id ∈ Response.opened? response, id ∉ opened) :
    Tracks (opened ++ (Response.opened? response).toList)
      (closed ++ (request.closed? response).toList) next := by
  cases heffect with
  | @opened id kind settings p hmake =>
      have hnew : id ∉ opened := hfresh id rfl
      simpa [Response.opened?, Request.closed?] using
        htracks.insert_new hnew p
  | @trained id fallback records p next answer hfound hnext =>
      have hold := mem_ids_of_get?_eq_some r id p hfound
      have hquiet : Response.opened? (answer.map .answered) = none :=
        (Effect.trained hfound hnext).opened?_eq
      rw [hquiet]
      simpa [Request.closed?] using htracks.insert_old hold next
  | @closed id p hfound =>
      have hold := mem_ids_of_get?_eq_some r id p hfound
      simpa [Response.opened?, Request.closed?] using htracks.remove hold
  | unchanged hnew hopened hclosed =>
      rw [hopened, hclosed]
      simpa using htracks

theorem Tracks.run (htracks : Tracks opened closed r) (requests : List Request)
    (hfresh : (opened ++ openedIds (r.run requests).1).Nodup) :
    Tracks (opened ++ openedIds (r.run requests).1)
      (closed ++ closedIds requests (r.run requests).1)
      (r.run requests).2 := by
  induction requests generalizing r opened closed with
  | nil => simpa [Registry.run, openedIds, closedIds] using htracks
  | cons request requests ih =>
      rw [run_cons, openedIds_cons, ← List.append_assoc] at hfresh
      rw [run_cons, openedIds_cons, closedIds_cons, ← List.append_assoc,
        ← List.append_assoc]
      refine ih (htracks.step (effect_perform r request) ?_) hfresh
      intro id hid
      have hstep := (List.nodup_append.mp (List.nodup_append.mp hfresh).1).2.2
      intro hmem
      exact hstep id hmem id (Option.mem_toList.mpr hid) rfl

/-- Every session that was opened is either there or closed. -/
theorem Tracks.size_add (htracks : Tracks opened closed r)
    (hopened : opened.Nodup) : r.size + closed.length = opened.length := by
  have hids : r.ids.Nodup := htracks.ordered.imp SessionId.Before.ne
  have hboth : (r.ids ++ closed).Nodup := by
    refine List.nodup_append.mpr ⟨hids, htracks.nodup_closed, ?_⟩
    rintro id hid _ hclosed rfl
    exact ((htracks.mem_ids_iff id).mp hid).2 hclosed
  have hperm : (r.ids ++ closed).Perm opened := by
    rw [List.perm_ext_iff_of_nodup hboth hopened]
    intro id
    rw [List.mem_append, htracks.mem_ids_iff]
    constructor
    · rintro (⟨hid, -⟩ | hid)
      · exact hid
      · exact htracks.closed_subset id hid
    · intro hid
      by_cases hclosed : id ∈ closed
      · exact Or.inr hclosed
      · exact Or.inl ⟨hid, hclosed⟩
  have hlength := hperm.length_eq
  rwa [List.length_append, ids, List.length_map] at hlength

end tracks

section session

variable {r : Registry} {id : SessionId} {p : Pipeline}

/-- Whatever happens to other sessions, this one stays as it is. -/
theorem Effect.frame {request : Request} {response : Except Error Response}
    {next : Registry} (heffect : Effect r request response next)
    (hquiet : request.operation? id = none)
    (hopen : Response.opened? response ≠ some id)
    (hclose : request ≠ .closeSession id) :
    next.get? id = r.get? id := by
  cases heffect with
  | @opened other kind settings p hmake =>
      have hne : id ≠ other := fun h => hopen (congrArg some h.symm)
      rw [get?_insert, if_neg hne]
  | @trained other fallback records p next answer hfound hnext =>
      have hne : id ≠ other := by
        rintro rfl
        simp [Request.operation?] at hquiet
      rw [get?_insert, if_neg hne]
  | @closed other p hfound =>
      have hne : id ≠ other := fun h => hclose (congrArg _ h.symm)
      rw [get?_remove, if_neg hne]
  | unchanged hnew hopened hclosed => rfl

variable (hfound : r.get? id = some p) (hseed : p.settings.seed.isSome)
  (other : UInt64)

include hfound hseed

/-- A request to a session is an operation on its pipeline. -/
theorem perform_operation {request : Request} {op : Pipeline.Operation}
    (hop : request.operation? id = some op) :
    (r.perform request).1 = (p.perform other op).1.map .answered ∧
      (r.perform request).2.get? id = some (p.perform other op).2 := by
  cases request with
  | train target fallback records =>
      by_cases htarget : target = id
      · subst htarget
        simp only [Request.operation?, if_true, Option.some.injEq] at hop
        subst hop
        rw [perform_train hfound, get?_insert_self,
          Pipeline.perform_seeded hseed fallback other]
        exact ⟨rfl, rfl⟩
      · simp [Request.operation?, htarget] at hop
  | predict target text =>
      by_cases htarget : target = id
      · subst htarget
        simp only [Request.operation?, if_true, Option.some.injEq] at hop
        subst hop
        rw [perform_predict hfound text other]
        exact ⟨rfl, hfound⟩
      · simp [Request.operation?, htarget] at hop
  | openSession target kind settings => cases hop
  | get target => cases hop
  | closeSession target => cases hop
  | size => cases hop
  | ids => cases hop

/-- What is asked of a session while it is there comes to what it would come to with
its pipeline alone. -/
theorem run_session {requests : List Request}
    (hopen : id ∉ openedIds (r.run requests).1)
    (hclose : .closeSession id ∉ requests) :
    responsesOn id requests (r.run requests).1 =
        (p.run other (operationsOn id requests)).1.map (·.map .answered) ∧
      (r.run requests).2.get? id =
        some (p.run other (operationsOn id requests)).2 := by
  induction requests generalizing r p with
  | nil => exact ⟨rfl, hfound⟩
  | cons request requests ih =>
      rw [run_cons] at hopen ⊢
      have hhead : Response.opened? (r.perform request).1 ≠ some id := by
        intro h
        exact hopen (List.mem_filterMap.mpr ⟨_, List.mem_cons_self, h⟩)
      have hrest : id ∉ openedIds ((r.perform request).2.run requests).1 := by
        intro h
        obtain ⟨response, hresponse, hid⟩ := List.mem_filterMap.mp h
        exact hopen (List.mem_filterMap.mpr
          ⟨response, List.mem_cons_of_mem _ hresponse, hid⟩)
      have hne : request ≠ .closeSession id := by
        rintro rfl
        exact hclose List.mem_cons_self
      have htail : .closeSession id ∉ requests := fun h =>
        hclose (List.mem_cons_of_mem request h)
      cases hop : request.operation? id with
      | none =>
          have hkept := (effect_perform r request).frame hop hhead hne
          obtain ⟨hresponses, hlast⟩ :=
            ih (hkept.trans hfound) hseed hrest htail
          simp only [operationsOn, responsesOn, List.filterMap_cons, hop,
            List.zip_cons_cons, Option.map_none]
          exact ⟨hresponses, hlast⟩
      | some op =>
          obtain ⟨hresponse, hnext⟩ := perform_operation hfound hseed other hop
          have hnextSeed : (p.perform other op).2.settings.seed.isSome := by
            rw [Pipeline.perform_settings]
            exact hseed
          obtain ⟨hresponses, hlast⟩ := ih hnext hnextSeed hrest htail
          simp only [operationsOn, responsesOn, List.filterMap_cons, hop,
            List.zip_cons_cons, Option.map_some, Pipeline.run_cons,
            List.map_cons]
          exact ⟨congrArg₂ List.cons hresponse hresponses, hlast⟩

end session

/-- How a registry without sessions has answered some requests, and how it stands
after them. -/
structure Isolated (requests : List Request)
    (responses : List (Except Error Response)) (r : Registry) : Prop where
  /-- From its opening until it is closed, a session answers as its pipeline does
  without any other session. -/
  session : ∀ before during after id kind settings p,
    requests = before ++ .openSession id kind settings :: (during ++ after) →
    Pipeline.make kind settings = .ok p → settings.seed.isSome →
    .closeSession id ∉ during → ∀ other,
    responsesOn id during (responses.drop (before.length + 1)) =
      (p.run other (operationsOn id during)).1.map (·.map .answered)
  /-- All that is left of it is its pipeline. -/
  found : ∀ before during id kind settings p,
    requests = before ++ .openSession id kind settings :: during →
    Pipeline.make kind settings = .ok p → settings.seed.isSome →
    .closeSession id ∉ during → ∀ other,
    r.perform (.get id) =
      (.ok (.found (p.run other (operationsOn id during)).2), r)
  /-- A session that was never opened, or that is closed already, is not found. -/
  unknown : ∀ request id, request.session? = some id →
    id ∉ openedIds responses ∨ id ∈ closedIds requests responses →
    r.perform request = (.error (.unknownSession id.text), r) ∧
      (Error.unknownSession id.text).kind = .notFound
  opened : ∀ id kind settings p, Pipeline.make kind settings = .ok p →
    r.perform (.openSession id kind settings) =
      (.ok (.opened id), r.insert id p)
  refused : ∀ id kind settings problem, settings.problem? = some problem →
    r.perform (.openSession id kind settings) =
      (.error (.badSetting problem), r)
  closed_le_opened : (closedIds requests responses).length ≤
    (openedIds responses).length
  size_eq : r.perform .size =
    (.ok (.count ((openedIds responses).length -
      (closedIds requests responses).length)), r)
  ids_eq : ∃ ids, r.perform .ids = (.ok (.list ids), r) ∧
    ids.Pairwise SessionId.Before ∧ ids.Nodup ∧
    ∀ id, id ∈ ids ↔
      id ∈ openedIds responses ∧ id ∉ closedIds requests responses

section isolated

variable {requests : List Request}
  (hfresh : (newIds requests).Nodup)

include hfresh

theorem tracks_run :
    Tracks (openedIds (empty.run requests).1)
      (closedIds requests (empty.run requests).1) (empty.run requests).2 := by
  have hnodup : (openedIds (empty.run requests).1).Nodup := by
    rwa [openedIds_run]
  exact tracks_empty.run requests hnodup

/-- How a session has come along, when some requests after its opening were made. -/
theorem run_session_of_open {before during after : List Request}
    {id : SessionId} {kind : ModelKind} {settings : Settings} {p : Pipeline}
    (hrequests :
      requests = before ++ .openSession id kind settings :: (during ++ after))
    (hmake : Pipeline.make kind settings = .ok p)
    (hseed : settings.seed.isSome) (hclose : .closeSession id ∉ during)
    (other : UInt64) :
    responsesOn id during
        ((empty.run requests).1.drop (before.length + 1)) =
        (p.run other (operationsOn id during)).1.map (·.map .answered) ∧
      (empty.run (before ++ .openSession id kind settings :: during)).2.get?
          id = some (p.run other (operationsOn id during)).2 := by
  obtain ⟨-, hsettings, -⟩ := Pipeline.make_eq_ok_iff.mp hmake
  have hvalid : settings.problem? = none := hsettings ▸ p.valid
  have hnew : id ∉ newIds during := by
    simp only [hrequests, newIds, List.filterMap_append, List.filterMap_cons,
      Request.newId?, if_pos hvalid] at hfresh
    have htail := (List.nodup_append.mp hfresh).2.1
    intro hid
    exact (List.nodup_cons.mp htail).1 (List.mem_append_left _ hid)
  have hfound : ((empty.run before).2.insert id p).get? id = some p :=
    get?_insert_self _ id p
  have hopen : id ∉
      openedIds (((empty.run before).2.insert id p).run during).1 := by
    rwa [openedIds_run]
  obtain ⟨hresponses, hlast⟩ := run_session hfound (hsettings ▸ hseed) other
    hopen hclose
  constructor
  · rw [← hresponses, hrequests, run_append, run_cons, perform_open _ hmake,
      run_append, List.append_cons, List.drop_left' (by simp [length_run])]
    exact responsesOn_append id (length_run _ during) _
  · rw [run_append, run_cons, perform_open _ hmake]
    exact hlast

end isolated

/-- Whatever is asked of a registry that began without sessions, in whatever order,
each session is on its own, and those that are there are the ones that were opened and
not closed.  The ids that are drawn have to differ. -/
theorem run_isolated (requests : List Request)
    (hfresh : (newIds requests).Nodup) :
    Isolated requests (empty.run requests).1 (empty.run requests).2 := by
  have htracks := tracks_run hfresh
  have hnodup : (openedIds (empty.run requests).1).Nodup := by
    rwa [openedIds_run]
  have hsize := htracks.size_add hnodup
  exact {
    session := by
      intro before during after id kind settings p hrequests hmake hseed hclose
        other
      exact (run_session_of_open hfresh hrequests hmake hseed hclose other).1
    found := by
      intro before during id kind settings p hrequests hmake hseed hclose other
      apply perform_get
      have hrequests' : requests =
          before ++ .openSession id kind settings :: (during ++ []) := by
        rw [List.append_nil, hrequests]
      rw [hrequests]
      exact (run_session_of_open hfresh hrequests' hmake hseed hclose other).2
    unknown := by
      intro request id hsession hgone
      have habsent : id ∉ (empty.run requests).2.ids := by
        rw [htracks.mem_ids_iff, not_and_not_right]
        exact fun hopened => hgone.resolve_left (not_not.mpr hopened)
      rw [← isSome_get?_iff, Option.not_isSome_iff_eq_none] at habsent
      exact ⟨perform_of_get?_eq_none habsent hsession, rfl⟩
    opened := fun _ _ _ _ hmake => perform_open _ hmake
    refused := by
      intro id kind settings problem hproblem
      exact perform_open_of_problem _ id kind hproblem
    closed_le_opened := by omega
    size_eq := by
      have hcount : (empty.run requests).2.size =
          (openedIds (empty.run requests).1).length -
            (closedIds requests (empty.run requests).1).length := by omega
      rw [← hcount]
      rfl
    ids_eq := ⟨_, rfl, htracks.ordered,
      htracks.ordered.imp SessionId.Before.ne, htracks.mem_ids_iff⟩ }

/-- Two sessions side by side, the second of which is closed. -/
def twoSessions : List Request :=
  [.openSession (.ofNat 2) .tree (Pipeline.seeded .tree 7).settings,
    .openSession (.ofNat 1) .nearest (Pipeline.seeded .nearest 7).settings,
    .train (.ofNat 2) 0 [⟨"the market rose", "real"⟩,
      ⟨"aliens landed here", "fake"⟩],
    .predict (.ofNat 1) "the market rose",
    .closeSession (.ofNat 1),
    .get (.ofNat 1),
    .predict (.ofNat 2) "the market rose",
    .size]

theorem run_isolated_twoSessions :
    (newIds twoSessions).Nodup ∧
      Isolated twoSessions (empty.run twoSessions).1
        (empty.run twoSessions).2 ∧
      responsesOn (.ofNat 2) (twoSessions.drop 1)
          ((empty.run twoSessions).1.drop 1) =
        ((Pipeline.seeded .tree 7).run 0 [.train [⟨"the market rose", "real"⟩,
          ⟨"aliens landed here", "fake"⟩], .predict "the market rose"]).1.map
          (·.map .answered) := by
  have hfresh : (newIds twoSessions).Nodup := by decide +kernel
  have hclose : .closeSession (.ofNat 2) ∉ twoSessions.drop 1 := by
    simp [twoSessions, SessionId.ofNat]
  have hisolated := run_isolated twoSessions hfresh
  exact ⟨hfresh, hisolated, hisolated.session [] _ [] _ _ _ _
    (by rw [List.append_nil]; rfl) (Pipeline.make_seeded .tree 7) rfl hclose 0⟩

end Registry

end Credence
