import MyBuild.Library.Runs
import MyBuild.Orders.Coupling
import MyBuild.Orders.Detail

/-!
# The card of an order, kept alive

The card shows the last answer that has arrived: of a reload after a burst of events, of an
action of the user, or of a render of the page by the server.  Each is a request of its own,
and nothing keeps their answers in order.  An answer carries the moment at which the server
has produced it, which only the statements ask for.
-/

namespace MyBuild

/-- The order as the server saw it at some moment. -/
structure OrderSnapshot where
  order : OrderDetail
  producedAt : ℕ

inductive OrderRead where
  | reload
  | action
  | render
  deriving DecidableEq

/-- A request is sent, the server produces its answer, and the answer arrives or is lost. -/
inductive ReadPhase where
  | sent
  | produced (snapshot : OrderSnapshot)
  | settled (arrived : Option OrderSnapshot)

structure OrderRequest where
  read : OrderRead
  phase : ReadPhase

/-- The state of `OrderLive`, its burst timer, and the requests of the page.  `server` is the
order the page was rendered with; `now` counts the answers the server has produced. -/
structure OrderLive where
  order : OrderSnapshot
  server : OrderSnapshot
  timer : Bool
  requests : List OrderRequest
  now : ℕ

/-- What happens to the card.  `event` is one that the card accepts, or a connection after a
break; `refresh` a render asked for elsewhere on the page; `empty` an answer without the order. -/
inductive LiveLabel where
  | event
  | burst
  | act
  | refresh
  | produce (request : ℕ) (order : OrderDetail)
  | arrive (request : ℕ)
  | empty (request : ℕ)
  | fail (request : ℕ)

namespace OrderLive

/-- A page that was just rendered. -/
def rendered (order : OrderDetail) : OrderLive :=
  let snapshot := { order, producedAt := 0 }
  { order := snapshot, server := snapshot, timer := false, requests := [], now := 0 }

variable (page : OrderLive) (request : ℕ)

def send (read : OrderRead) : OrderLive :=
  { page with requests := page.requests ++ [{ read, phase := .sent }] }

def setPhase (phase : ReadPhase) : OrderLive :=
  { page with requests := page.requests.modify request fun old => { old with phase } }

/-- The timer of the burst fires. -/
def burst : OrderLive :=
  if page.timer then { page with timer := false }.send .reload else page

def produce (order : OrderDetail) : OrderLive :=
  match page.requests[request]? with
  | some { phase := .sent, .. } =>
      { page.setPhase request (.produced { order, producedAt := page.now + 1 }) with
        now := page.now + 1 }
  | _ => page

/-- The answer takes the place of the order, wherever it comes from; a render brings a new
property as well. -/
def arrive : OrderLive :=
  match page.requests[request]? with
  | some { read, phase := .produced snapshot } =>
      { page.setPhase request (.settled (some snapshot)) with
        order := snapshot
        server := if read = .render then snapshot else page.server }
  | _ => page

/-- After a reload that failed the page is rendered, after an action the order is reloaded. -/
def retry : OrderRead → OrderLive
  | .reload => page.send .render
  | .action => page.send .reload
  | .render => page

def empty : OrderLive :=
  match page.requests[request]? with
  | some { read := .action, phase := .produced _ } =>
      (page.setPhase request (.settled none)).send .reload
  | _ => page

def fail : OrderLive :=
  match page.requests[request]? with
  | some { read, phase := .sent } | some { read, phase := .produced _ } =>
      (page.setPhase request (.settled none)).retry read
  | _ => page

def step (page : OrderLive) : LiveLabel → OrderLive
  | .event => { page with timer := true }
  | .burst => page.burst
  | .act => page.send .action
  | .refresh => page.send .render
  | .produce request order => page.produce request order
  | .arrive request => page.arrive request
  | .empty request => page.empty request
  | .fail request => page.fail request

/-- The snapshot of an answer that has arrived. -/
def Arrived (page : OrderLive) (snapshot : OrderSnapshot) : Prop :=
  ∃ request ∈ page.requests, request.phase = .settled (some snapshot)

/-- No answer that the server has produced later has arrived before. -/
def InOrder (page : OrderLive) : LiveLabel → Prop
  | .arrive request => ∀ read snapshot,
      page.requests[request]? = some { read, phase := .produced snapshot } →
        ∀ earlier, page.Arrived earlier → earlier.producedAt ≤ snapshot.producedAt
  | _ => True

/-- The card shows the latest of what has arrived. -/
structure ShowsLatest (page : OrderLive) : Prop where
  latest : ∀ snapshot, page.Arrived snapshot → snapshot.producedAt ≤ page.order.producedAt
  attained : page.order.producedAt = 0 ∨ page.Arrived page.order

variable {page request} {label : LiveLabel}

theorem arrived_send {read : OrderRead} {snapshot : OrderSnapshot} :
    (page.send read).Arrived snapshot ↔ page.Arrived snapshot := by
  simp [Arrived, send]

theorem getElem?_setPhase (phase : ReadPhase) (index : ℕ) :
    (page.setPhase request phase).requests[index]? =
      if request = index then (page.requests[index]?).map fun old => { old with phase }
      else page.requests[index]? := by
  simp only [setPhase, List.getElem?_modify]
  split <;> simp

/-- A request that has not settled yet gives its answer to those that have arrived, if it has
one. -/
theorem arrived_setPhase {old : OrderRequest} {phase : ReadPhase} {snapshot : OrderSnapshot}
    (found : page.requests[request]? = some old)
    (unsettled : ∀ arrived, old.phase ≠ .settled arrived) :
    (page.setPhase request phase).Arrived snapshot ↔
      page.Arrived snapshot ∨ phase = .settled (some snapshot) := by
  constructor
  · rintro ⟨moved, mem, isSettled⟩
    rcases List.mem_iff_getElem?.mp mem with ⟨index, movedFound⟩
    rw [getElem?_setPhase] at movedFound
    split at movedFound
    · rcases Option.map_eq_some_iff.mp movedFound with ⟨_, _, rfl⟩
      exact Or.inr isSettled
    · exact Or.inl ⟨moved, List.mem_of_getElem? movedFound, isSettled⟩
  · rintro (⟨arrived, mem, isSettled⟩ | isSettled)
    · rcases List.mem_iff_getElem?.mp mem with ⟨index, arrivedFound⟩
      have differs : request ≠ index := by
        rintro rfl
        rw [found] at arrivedFound
        cases arrivedFound
        exact unsettled _ isSettled
      refine ⟨arrived, ?_, isSettled⟩
      apply @List.mem_of_getElem? _ _ index
      rw [getElem?_setPhase, if_neg differs]
      exact arrivedFound
    · refine ⟨{ old with phase }, ?_, isSettled⟩
      apply @List.mem_of_getElem? _ _ request
      rw [getElem?_setPhase, if_pos rfl, found]
      rfl

namespace ShowsLatest

theorem of_arrived {next : OrderLive} (shows : page.ShowsLatest) (order : next.order = page.order)
    (arrived : ∀ snapshot, next.Arrived snapshot ↔ page.Arrived snapshot) :
    next.ShowsLatest := by
  constructor
  · intro snapshot isArrived
    rw [order]
    exact shows.latest snapshot ((arrived snapshot).mp isArrived)
  · rw [order]
    exact shows.attained.imp_right (arrived page.order).mpr

theorem send (shows : page.ShowsLatest) (read : OrderRead) : (page.send read).ShowsLatest :=
  shows.of_arrived rfl fun _ => arrived_send

theorem retry (shows : page.ShowsLatest) (read : OrderRead) : (page.retry read).ShowsLatest := by
  cases read with
  | reload => exact shows.send .render
  | action => exact shows.send .reload
  | render => exact shows

theorem setPhase (shows : page.ShowsLatest) {old : OrderRequest} {phase : ReadPhase}
    (found : page.requests[request]? = some old)
    (unsettled : ∀ arrived, old.phase ≠ .settled arrived)
    (noAnswer : ∀ snapshot, phase ≠ .settled (some snapshot)) :
    (page.setPhase request phase).ShowsLatest := by
  refine shows.of_arrived rfl ?_
  intro snapshot
  rw [arrived_setPhase found unsettled]
  simp [noAnswer]

/-- An answer that nothing later has come before is the latest now. -/
theorem arrive (shows : page.ShowsLatest) (inOrder : page.InOrder (.arrive request)) :
    (page.arrive request).ShowsLatest := by
  simp only [OrderLive.arrive]
  split
  · rename_i read snapshot found
    have arrived : ∀ other, (page.setPhase request (.settled (some snapshot))).Arrived other ↔
        page.Arrived other ∨ other = snapshot := by
      intro other
      rw [arrived_setPhase found (by simp)]
      simp [eq_comm]
    constructor
    · intro other isArrived
      rcases (arrived other).mp isArrived with earlier | rfl
      · exact inOrder read snapshot found other earlier
      · exact le_refl _
    · exact Or.inr ((arrived snapshot).mpr (Or.inr rfl))
  · exact shows

theorem step (shows : page.ShowsLatest) (inOrder : page.InOrder label) :
    (page.step label).ShowsLatest := by
  cases label with
  | event => exact shows.of_arrived rfl fun _ => Iff.rfl
  | burst =>
      simp only [OrderLive.step, burst]
      split
      · have idle : ({ page with timer := false } : OrderLive).ShowsLatest :=
          shows.of_arrived rfl fun _ => Iff.rfl
        exact idle.send .reload
      · exact shows
  | act => exact shows.send .action
  | refresh => exact shows.send .render
  | produce request order =>
      simp only [OrderLive.step, produce]
      split
      · rename_i found
        exact (shows.setPhase found (by simp) (by simp)).of_arrived rfl fun _ => Iff.rfl
      · exact shows
  | arrive request => exact shows.arrive inOrder
  | empty request =>
      simp only [OrderLive.step, empty]
      split
      · rename_i found
        exact (shows.setPhase found (by simp) (by simp)).send .reload
      · exact shows
  | fail request =>
      simp only [OrderLive.step, fail]
      split
      · rename_i read found
        exact (shows.setPhase found (by simp) (by simp)).retry read
      · rename_i read _ found
        exact (shows.setPhase found (by simp) (by simp)).retry read
      · exact shows

theorem rendered (order : OrderDetail) : (OrderLive.rendered order).ShowsLatest := by
  constructor
  · rintro snapshot ⟨request, mem, _⟩
    cases mem
  · exact Or.inl rfl

end ShowsLatest

@[simp]
theorem order_retry (read : OrderRead) : (page.retry read).order = page.order := by
  cases read <;> rfl

/-- Only an answer that arrives changes what is shown. -/
theorem order_step (noAnswer : ∀ request, label ≠ .arrive request) :
    (page.step label).order = page.order := by
  cases label with
  | arrive request => exact absurd rfl (noAnswer request)
  | burst =>
      simp only [step, burst]
      split <;> rfl
  | produce request order =>
      simp only [step, produce]
      split <;> rfl
  | empty request =>
      simp only [step, empty]
      split <;> rfl
  | fail request =>
      simp only [step, fail]
      split <;> simp [setPhase]
  | _ => rfl

theorem order_arrive {read : OrderRead} {snapshot : OrderSnapshot}
    (found : page.requests[request]? = some { read, phase := .produced snapshot }) :
    (page.step (.arrive request)).order = snapshot := by
  simp only [step, arrive, found]

/-- While the card shows the latest, it goes on to a later answer exactly when that is next in
order. -/
theorem inOrder_iff (shows : page.ShowsLatest) :
    page.InOrder label ↔ page.order.producedAt ≤ (page.step label).order.producedAt := by
  by_cases isAnswer : ∃ request, label = .arrive request
  · rcases isAnswer with ⟨request, rfl⟩
    by_cases produced : ∃ read snapshot,
        page.requests[request]? = some { read, phase := .produced snapshot }
    · rcases produced with ⟨read, snapshot, found⟩
      rw [order_arrive found]
      constructor
      · intro inOrder
        rcases shows.attained with isFirst | isArrived
        · omega
        · exact inOrder read snapshot found page.order isArrived
      · intro later otherRead other otherFound earlier isArrived
        rw [found] at otherFound
        cases otherFound
        exact le_trans (shows.latest earlier isArrived) later
    · have same : page.step (.arrive request) = page := by
        simp only [step, arrive]
        split
        · rename_i read snapshot found
          exact absurd ⟨read, snapshot, found⟩ produced
        · rfl
      rw [same]
      apply iff_of_true
      · intro read snapshot found
        exact absurd ⟨read, snapshot, found⟩ produced
      · exact le_refl _
  · rw [order_step (not_exists.mp isAnswer)]
    apply iff_of_true
    · cases label with
      | arrive request => exact absurd ⟨request, rfl⟩ isAnswer
      | _ => trivial
    · exact le_refl _

/-- The card never goes back exactly when no answer comes after one that the server has produced
later. -/
theorem order_never_goes_back_iff (order : OrderDetail) (labels : List LiveLabel) :
    Runs.NeverFalls step (fun page => page.order.producedAt) (rendered order) labels ↔
      Runs.Along step InOrder (rendered order) labels := by
  have same : ∀ (page : OrderLive) (label : LiveLabel), page.ShowsLatest →
      (page.InOrder label ↔ page.order.producedAt ≤ (page.step label).order.producedAt) :=
    fun _ _ shows => inOrder_iff shows
  have preserved : ∀ (page : OrderLive) (label : LiveLabel), page.InOrder label →
      page.ShowsLatest → (page.step label).ShowsLatest :=
    fun _ _ inOrder shows => shows.step inOrder
  rw [Runs.neverFalls_iff]
  exact (Runs.Along.congr same preserved (ShowsLatest.rendered order) labels).symm

/-- A reload is answered by the server, then an action of the user; its answer comes first. -/
theorem late_reload_goes_back :
    ¬∀ (order : OrderDetail) (labels : List LiveLabel),
      Runs.NeverFalls step (fun page => page.order.producedAt) (rendered order) labels := by
  intro never
  let tables := (reached ⟨1⟩ 1 exampleMoment ⟨9⟩ exampleOrder
    [exampleSubmission ⟨2⟩ ⟨11⟩ 100]).tables
  let order := OrdersService.card (exampleEnvironment ⟨11⟩).users tables ⟨9⟩
  have falls := never order
    [.event, .burst, .produce 0 order, .act, .produce 1 order, .arrive 1, .arrive 0]
    [.event, .burst, .produce 0 order, .act, .produce 1 order, .arrive 1] [.arrive 0] [] rfl
  exact absurd falls (by decide +kernel)

end OrderLive

end MyBuild
