import MyBuild.Accounts.Tokens
import MyBuild.Common.RateWindow
import MyBuild.Realtime.Gateway

/-!
# The connections of the gateway

A socket shows its token once, in the handshake, and then stays for hours.  The gateway closes it
by a timer when the token ends, and looks at the clock again when the socket asks for the feed.
Meanwhile accounts change and tokens are signed.

A timer fires when it is due, or any time later; a delay that does not fit into 31 bits, and one
of less than a millisecond, is one millisecond.
-/

namespace MyBuild

structure Handshake where
  authToken : Option Claim
  authorization : Option String

/-- The token of the handshake; the header is for clients that cannot send one there. -/
def readHandshakeToken (handshake : Handshake) : Option String :=
  match handshake.authToken with
  | some (.string token) =>
      if token.toList.isEmpty then extractBearerToken handshake.authorization else some token
  | _ => extractBearerToken handshake.authorization

/-- The handshake is over, the personal room is being entered, the socket is in it, or it is
closed. -/
inductive ConnectionPhase where
  | authenticated
  | joining
  | opened
  | closed
  deriving DecidableEq

/-- A socket that has passed the handshake; `expiryTimer` is the moment the timer is set to. -/
structure Connection where
  handshake : Handshake
  verified : VerifiedToken
  phase : ConnectionPhase := .authenticated
  expiryTimer : Option ℤ := none
  messageRate : RateWindows String := {}
  inFeed : Bool := false

structure ConnectionState where
  accounts : TokenState
  now : ℤ
  sockets : List Connection

inductive ConnectionLabel where
  | account (label : TokenLabel)
  | tick (elapsed : ℕ)
  | handshake (handshake : Handshake)
  | handleConnection (socket : ℕ)
  | joined (socket : ℕ) (succeeded : Bool)
  | subscribeFeed (socket : ℕ) (succeeds : Bool)
  | unsubscribeFeed (socket : ℕ)
  | disconnect (socket : ℕ)
  | fire (socket : ℕ)

def ConnectionLabel.account? : ConnectionLabel → Option TokenLabel
  | .account label => some label
  | _ => none

namespace OrderGateway

def feedForbidden : String := "Лента заказов доступна только компаниям"

def messageRate : RateWindowOptions := { limit := 30, ttl := 10000 }

/-- The middleware of the handshake; the message of its error goes to the client. -/
def authenticate (jwt : JWTVerify) (tokens : List SignedToken) (now : ℤ) (handshake : Handshake) :
    Except String VerifiedToken :=
  match readHandshakeToken handshake with
  | none => .error "Требуется авторизация"
  | some token =>
      match SupabaseJwtService.verifyToken jwt tokens now token with
      | .error message => .error message
      | .ok verified =>
          if verified.user.emailVerified then .ok verified
          else .error SupabaseAuthGuard.emailNotVerified

end OrderGateway

/-- What `setTimeout` makes of a delay. -/
def timeoutDelay (delay : ℤ) : ℤ := if 1 ≤ delay ∧ delay ≤ 2147483647 then delay else 1

namespace Connection

/-- The socket leaves its rooms and its timer is cleared. -/
def close (socket : Connection) : Connection :=
  { socket with phase := .closed, expiryTimer := none, inFeed := false }

def scheduleExpiry (now : ℤ) (socket : Connection) : Connection :=
  { socket with
    expiryTimer := socket.verified.expiresAt.map fun expiresAt =>
      now + timeoutDelay (max (expiresAt - now) 0) }

def handleConnection (now : ℤ) (socket : Connection) : Connection :=
  match socket.phase with
  | .authenticated => { socket.scheduleExpiry now with phase := .joining }
  | _ => socket

def joined (succeeded : Bool) (socket : Connection) : Connection :=
  match socket.phase with
  | .joining => if succeeded then { socket with phase := .opened } else socket.close
  | _ => socket

/-- The messages of a socket are handled from the connection on. -/
def isConnected (socket : Connection) : Bool :=
  match socket.phase with
  | .joining | .opened => true
  | .authenticated | .closed => false

/-- The user, unless the token has ended; then the socket is closed. -/
def activeUser (now : ℤ) (socket : Connection) : Option TokenUser × Connection :=
  match socket.verified.expiresAt with
  | some expiresAt =>
      if expiresAt ≤ now then (none, socket.close) else (some socket.verified.user, socket)
  | none => (some socket.verified.user, socket)

/-- The limit of the messages comes before the handler. -/
def handle (now : ℤ) (message : String) (run : Connection → SubscribeAck × Connection)
    (socket : Connection) : SubscribeAck × Connection :=
  let (allowed, messageRate) := socket.messageRate.hit message OrderGateway.messageRate now
  let counted := { socket with messageRate }
  if allowed.allowed then run counted
  else ({ ok := false, error := some OrderGateway.tooManyMessages, retryable := true }, counted)

def subscribeFeed (now : ℤ) (succeeds : Bool) : Connection → SubscribeAck × Connection :=
  handle now "subscribe:feed" fun socket =>
    let (user, socket) := socket.activeUser now
    if user.bind (·.role) = some .company then
      if succeeds then
        ({ ok := true, error := none, retryable := false }, { socket with inFeed := true })
      else ({ ok := false, error := some OrderGateway.subscribeFailed, retryable := true }, socket)
    else ({ ok := false, error := some OrderGateway.feedForbidden, retryable := false }, socket)

def unsubscribeFeed (now : ℤ) : Connection → SubscribeAck × Connection :=
  handle now "unsubscribe:feed" fun socket =>
    ({ ok := true, error := none, retryable := false }, { socket with inFeed := false })

def fire (now : ℤ) (socket : Connection) : Connection :=
  if socket.expiryTimer.any (· ≤ now) then socket.close else socket

/-- What the socket does on a label of its own. -/
def react (now : ℤ) (socket : Connection) : ConnectionLabel → Connection
  | .handleConnection _ => socket.handleConnection now
  | .joined _ succeeded => socket.joined succeeded
  | .subscribeFeed _ succeeds =>
      if socket.isConnected then (socket.subscribeFeed now succeeds).2 else socket
  | .unsubscribeFeed _ => if socket.isConnected then (socket.unsubscribeFeed now).2 else socket
  | .disconnect _ => socket.close
  | .fire _ => socket.fire now
  | .account _ | .tick _ | .handshake _ => socket

end Connection

namespace ConnectionState

def initial : ConnectionState := { accounts := TokenState.initial, now := 0, sockets := [] }

def step (services : Services) (jwt : JWTVerify) (state : ConnectionState)
    (label : ConnectionLabel) : ConnectionState :=
  match label with
  | .account label => { state with accounts := state.accounts.step services label }
  | .tick elapsed => { state with now := state.now + elapsed }
  | .handshake handshake =>
      match OrderGateway.authenticate jwt state.accounts.tokens state.now handshake with
      | .ok verified => { state with sockets := state.sockets ++ [{ handshake, verified }] }
      | .error _ => state
  | .handleConnection socket | .joined socket _ | .subscribeFeed socket _
  | .unsubscribeFeed socket | .disconnect socket | .fire socket =>
      { state with sockets := state.sockets.modify socket (·.react state.now label) }

def after (services : Services) (jwt : JWTVerify) (labels : List ConnectionLabel) :
    ConnectionState :=
  Runs.run (step services jwt) initial labels

end ConnectionState

/-- When the timer of a token may be set to fire: at its end, unless the socket came too late for
that or the end is too far away. -/
def Due (now expiresAt due : ℤ) : Prop :=
  due = expiresAt ∨ due ≤ now + 1 ∧ (expiresAt < due ∨ due + 2147483647 ≤ expiresAt)

/-- A connected socket whose token ends has its timer; only such a socket has one, and only a
connected socket of a company is in the feed. -/
structure Connection.Kept (now : ℤ) (socket : Connection) : Prop where
  timed : ∀ expiresAt, socket.isConnected = true → socket.verified.expiresAt = some expiresAt →
    ∃ due, socket.expiryTimer = some due ∧ Due now expiresAt due
  timer : ∀ due, socket.expiryTimer = some due → socket.isConnected = true
  connected : socket.inFeed = true → socket.isConnected = true
  company : socket.inFeed = true → socket.verified.user.role = some .company

namespace Connection

variable {now later : ℤ} {socket : Connection} {label : ConnectionLabel} {message : String}
  {run : Connection → SubscribeAck × Connection}

theorem Kept.mono (kept : socket.Kept now) (order : now ≤ later) : socket.Kept later where
  timed expiresAt connected ends := by
    rcases kept.timed expiresAt connected ends with ⟨due, isDue, atEnd | ⟨soon, away⟩⟩
    · exact ⟨due, isDue, Or.inl atEnd⟩
    · exact ⟨due, isDue, Or.inr ⟨by omega, away⟩⟩
  timer := kept.timer
  connected := kept.connected
  company := kept.company

theorem kept_close : socket.close.Kept now := by
  constructor <;> simp [close, isConnected]

theorem kept_authenticated (handshake : Handshake) (verified : VerifiedToken) :
    Kept now { handshake, verified } := by
  constructor <;> simp [isConnected]

/-- The delay of the timer reaches the end of the token, where it can. -/
theorem due_timeoutDelay (expiresAt : ℤ) :
    Due now expiresAt (now + timeoutDelay (max (expiresAt - now) 0)) := by
  simp only [Due, timeoutDelay]
  split
  case isTrue fits => omega
  case isFalse short => omega

theorem Kept.handleConnection (kept : socket.Kept now) :
    (socket.handleConnection now).Kept now := by
  cases phase : socket.phase with
  | authenticated =>
      have notFed : socket.inFeed = false := by
        by_contra fed
        have connected := kept.connected (by simpa using fed)
        simp [isConnected, phase] at connected
      have unfolded : socket.handleConnection now =
          { socket.scheduleExpiry now with phase := .joining } := by
        simp [Connection.handleConnection, phase]
      rw [unfolded]
      constructor
      · intro expiresAt _ ends
        refine ⟨_, congrArg (Option.map _) ends, ?_⟩
        exact due_timeoutDelay expiresAt
      · intro due _
        rfl
      · intro fed
        exact absurd fed (by simp [scheduleExpiry, notFed])
      · intro fed
        exact absurd fed (by simp [scheduleExpiry, notFed])
  | joining | opened | closed =>
      simpa [Connection.handleConnection, phase] using kept

theorem Kept.joined (kept : socket.Kept now) (succeeded : Bool) :
    (socket.joined succeeded).Kept now := by
  cases phase : socket.phase with
  | joining =>
      have connected : socket.isConnected = true := by simp [isConnected, phase]
      cases succeeded with
      | false =>
          simp only [Connection.joined, phase, Bool.false_eq_true, if_false]
          exact kept_close
      | true =>
          simp only [Connection.joined, phase, if_true]
          exact ⟨fun expiresAt _ => kept.timed expiresAt connected, fun _ _ => rfl, fun _ => rfl,
            kept.company⟩
  | authenticated | opened | closed => simpa [Connection.joined, phase] using kept

/-- The user is there only while the token has not ended. -/
theorem activeUser_cases :
    (socket.activeUser now = (none, socket.close) ∧
        ∃ expiresAt, socket.verified.expiresAt = some expiresAt ∧ expiresAt ≤ now) ∨
      (socket.activeUser now = (some socket.verified.user, socket) ∧
        ∀ expiresAt ∈ socket.verified.expiresAt, now < expiresAt) := by
  cases ends : socket.verified.expiresAt with
  | none => simp [activeUser, ends]
  | some expiresAt =>
      by_cases past : expiresAt ≤ now
      · simp [activeUser, ends, past]
      · have still : now < expiresAt := not_le.mp past
        simp [activeUser, ends, past, still]

/-- The message is counted, and then handled or refused. -/
theorem handle_cases :
    ∃ messageRate, socket.handle now message run = run { socket with messageRate } ∨
      (socket.handle now message run).1.ok = false ∧
        (socket.handle now message run).2 = { socket with messageRate } := by
  refine ⟨(socket.messageRate.hit message OrderGateway.messageRate now).2, ?_⟩
  simp only [handle]
  split
  case isTrue => exact Or.inl rfl
  case isFalse => exact Or.inr ⟨rfl, rfl⟩

theorem Kept.counted (kept : socket.Kept now) (messageRate : RateWindows String) :
    { socket with messageRate }.Kept now where
  timed := kept.timed
  timer := kept.timer
  connected := kept.connected
  company := kept.company

/-- A subscription to the feed closes the socket, joins the feed, or leaves all but the count. -/
theorem subscribeFeed_cases (succeeds : Bool) :
    ∃ messageRate,
      ((socket.subscribeFeed now succeeds).1.ok = false ∧
          (socket.subscribeFeed now succeeds).2 = { socket with messageRate }.close) ∨
        ((socket.subscribeFeed now succeeds).1.ok = false ∧
          (socket.subscribeFeed now succeeds).2 = { socket with messageRate }) ∨
        ((socket.subscribeFeed now succeeds).2 = { socket with messageRate, inFeed := true } ∧
          socket.verified.user.role = some .company ∧
            ∀ expiresAt ∈ socket.verified.expiresAt, now < expiresAt) := by
  simp only [subscribeFeed]
  rcases @handle_cases now socket "subscribe:feed" _ with ⟨messageRate, handled | refused⟩
  · refine ⟨messageRate, ?_⟩
    rw [handled]
    rcases @activeUser_cases now { socket with messageRate } with ⟨active, -⟩ | ⟨active, still⟩
    · left
      simp [active]
    · right
      by_cases company : socket.verified.user.role = some .company
      · cases succeeds with
        | false =>
            left
            simp [active, company]
        | true =>
            right
            refine ⟨?_, company, still⟩
            simp [active, company]
      · left
        simp [active, company]
  · exact ⟨messageRate, Or.inr (Or.inl refused)⟩

theorem Kept.subscribeFeed (kept : socket.Kept now) (connected : socket.isConnected = true)
    (succeeds : Bool) : (socket.subscribeFeed now succeeds).2.Kept now := by
  rcases @subscribeFeed_cases now socket succeeds with
    ⟨messageRate, ⟨-, closed⟩ | ⟨-, counted⟩ | ⟨joined, company, -⟩⟩
  · rw [closed]
    exact kept_close
  · rw [counted]
    exact kept.counted messageRate
  · rw [joined]
    exact ⟨kept.timed, kept.timer, fun _ => connected, fun _ => company⟩

theorem Kept.unsubscribeFeed (kept : socket.Kept now) :
    (socket.unsubscribeFeed now).2.Kept now := by
  simp only [Connection.unsubscribeFeed]
  rcases @handle_cases now socket "unsubscribe:feed" _ with ⟨messageRate, handled | ⟨-, refused⟩⟩
  · rw [handled]
    refine ⟨kept.timed, kept.timer, ?_, ?_⟩
    · rintro ⟨⟩
    · rintro ⟨⟩
  · rw [refused]
    exact kept.counted messageRate

theorem Kept.react (kept : socket.Kept now) (label : ConnectionLabel) :
    (socket.react now label).Kept now := by
  cases label with
  | handleConnection index => exact kept.handleConnection
  | joined index succeeded => exact kept.joined succeeded
  | subscribeFeed index succeeds =>
      simp only [Connection.react]
      split
      case isTrue connected => exact kept.subscribeFeed connected succeeds
      case isFalse => exact kept
  | unsubscribeFeed index =>
      simp only [Connection.react]
      split
      case isTrue => exact kept.unsubscribeFeed
      case isFalse => exact kept
  | disconnect index => exact kept_close
  | fire index =>
      simp only [Connection.react, Connection.fire]
      split
      case isTrue => exact kept_close
      case isFalse => exact kept
  | account label => exact kept
  | tick elapsed => exact kept
  | handshake handshake => exact kept

/-- No label changes what a socket came with. -/
theorem react_handshake (label : ConnectionLabel) :
    (socket.react now label).handshake = socket.handshake ∧
      (socket.react now label).verified = socket.verified := by
  cases label with
  | handleConnection index => cases phase : socket.phase <;>
      simp [react, handleConnection, phase, scheduleExpiry]
  | joined index succeeded => cases phase : socket.phase <;> cases succeeded <;>
      simp [react, joined, phase, close]
  | subscribeFeed index succeeds =>
      simp only [react]
      split
      case isFalse => exact ⟨rfl, rfl⟩
      case isTrue =>
        rcases @subscribeFeed_cases now socket succeeds with
          ⟨messageRate, ⟨-, closed⟩ | ⟨-, counted⟩ | ⟨joined, -, -⟩⟩
        · rw [closed]
          exact ⟨rfl, rfl⟩
        · rw [counted]
          exact ⟨rfl, rfl⟩
        · rw [joined]
          exact ⟨rfl, rfl⟩
  | unsubscribeFeed index =>
      simp only [react]
      split
      case isFalse => exact ⟨rfl, rfl⟩
      case isTrue =>
        simp only [Connection.unsubscribeFeed]
        rcases @handle_cases now socket "unsubscribe:feed" _ with
          ⟨messageRate, handled | ⟨-, refused⟩⟩
        · rw [handled]
          exact ⟨rfl, rfl⟩
        · rw [refused]
          exact ⟨rfl, rfl⟩
  | disconnect index => exact ⟨rfl, rfl⟩
  | fire index =>
      simp only [react, fire]
      split
      case isTrue => exact ⟨rfl, rfl⟩
      case isFalse => exact ⟨rfl, rfl⟩
  | account label => exact ⟨rfl, rfl⟩
  | tick elapsed => exact ⟨rfl, rfl⟩
  | handshake handshake => exact ⟨rfl, rfl⟩

end Connection

namespace ConnectionState

open TokenState

variable {services : Services} {jwt : JWTVerify} {state : ConnectionState}
  {labels : List ConnectionLabel} {label : ConnectionLabel}

theorem run_accounts :
    (Runs.run (step services jwt) state labels).accounts =
      Runs.run (TokenState.step services) state.accounts
        (labels.filterMap ConnectionLabel.account?) := by
  induction labels generalizing state with
  | nil => rfl
  | cons label labels ih =>
      cases label with
      | account label => exact ih
      | handshake handshake =>
          rw [Runs.run_cons, ih]
          simp only [step]
          split <;> rfl
      | _ => exact ih

theorem after_accounts :
    (after services jwt labels).accounts =
      TokenState.after services (labels.filterMap ConnectionLabel.account?) :=
  run_accounts

/-- Who came through the handshake: the token shown there was signed for the user, and says
verified. -/
def Admitted (services : Services) (accounts : List TokenLabel) (handshake : Handshake)
    (verified : VerifiedToken) : Prop :=
  verified.user.emailVerified = true ∧ ∃ token, readHandshakeToken handshake = some token ∧
    ∃ earlier event later, SignedFor services accounts token verified earlier event later

variable {accounts : List TokenLabel} {handshake : Handshake} {verified : VerifiedToken}

theorem Admitted.append (admitted : Admitted services accounts handshake verified)
    (more : List TokenLabel) : Admitted services (accounts ++ more) handshake verified := by
  rcases admitted with ⟨isVerified, token, isToken, earlier, event, later, signed⟩
  exact ⟨isVerified, token, isToken, earlier, event, later ++ more, signed.append more⟩

theorem admitted_of_authenticate {now : ℤ}
    (authenticated : OrderGateway.authenticate jwt (TokenState.after services accounts).tokens now
      handshake = .ok verified) : Admitted services accounts handshake verified := by
  simp only [OrderGateway.authenticate] at authenticated
  split at authenticated
  case h_1 => cases authenticated
  case h_2 token isToken =>
    split at authenticated
    case h_1 => cases authenticated
    case h_2 found returned =>
      split at authenticated
      case isFalse => cases authenticated
      case isTrue isVerified =>
        cases authenticated
        exact ⟨isVerified, token, isToken, (signedFor_of_verified returned).1⟩

theorem step_handshake
    (authenticated : OrderGateway.authenticate jwt state.accounts.tokens state.now handshake =
      .ok verified) :
    step services jwt state (.handshake handshake) =
      { state with sockets := state.sockets ++ [{ handshake, verified }] } := by
  simp only [step, authenticated]

/-- A socket after one more label is a new one, or was there and has reacted, or stayed as it was
while time passed. -/
theorem mem_step {socket : Connection} (mem : socket ∈ (step services jwt state label).sockets) :
    (∃ handshake verified, label = .handshake handshake ∧ socket = { handshake, verified } ∧
        OrderGateway.authenticate jwt state.accounts.tokens state.now handshake = .ok verified) ∨
      ∃ old ∈ state.sockets, socket = old ∨ socket = old.react state.now label := by
  have modified : ∀ index, socket ∈ state.sockets.modify index (·.react state.now label) →
      ∃ old ∈ state.sockets, socket = old ∨ socket = old.react state.now label := by
    intro index mem
    rcases List.mem_iff_getElem?.mp mem with ⟨place, found⟩
    rw [List.getElem?_modify] at found
    rcases Option.map_eq_some_iff.mp found with ⟨old, isOld, rfl⟩
    refine ⟨old, List.mem_of_getElem? isOld, ?_⟩
    split
    case isTrue => exact Or.inr rfl
    case isFalse => exact Or.inl rfl
  cases label with
  | account label => exact Or.inr ⟨socket, mem, Or.inl rfl⟩
  | tick elapsed => exact Or.inr ⟨socket, mem, Or.inl rfl⟩
  | handshake handshake =>
      simp only [step] at mem
      split at mem
      case h_2 => exact Or.inr ⟨socket, mem, Or.inl rfl⟩
      case h_1 verified authenticated =>
        rcases List.mem_append.mp mem with old | new
        · exact Or.inr ⟨socket, old, Or.inl rfl⟩
        · exact Or.inl ⟨handshake, verified, rfl, List.mem_singleton.mp new, authenticated⟩
  | handleConnection index => exact Or.inr (modified index mem)
  | joined index succeeded => exact Or.inr (modified index mem)
  | subscribeFeed index succeeds => exact Or.inr (modified index mem)
  | unsubscribeFeed index => exact Or.inr (modified index mem)
  | disconnect index => exact Or.inr (modified index mem)
  | fire index => exact Or.inr (modified index mem)

theorem now_le_step : state.now ≤ (step services jwt state label).now := by
  cases label with
  | tick elapsed => simp [step]
  | handshake handshake =>
      simp only [step]
      split <;> exact le_rfl
  | _ => exact le_rfl

/-- Every socket of a reached state has been admitted and keeps its timer. -/
theorem after_kept : ∀ socket ∈ (after services jwt labels).sockets,
    socket.Kept (after services jwt labels).now ∧
      Admitted services (labels.filterMap ConnectionLabel.account?) socket.handshake
        socket.verified := by
  induction labels using List.reverseRecOn with
  | nil =>
      intro socket mem
      cases mem
  | append_singleton labels label ih =>
      intro socket mem
      rw [after, Runs.run_append, Runs.run_cons, Runs.run_nil, ← after] at mem ⊢
      rw [List.filterMap_append]
      rcases mem_step mem with ⟨handshake, verified, rfl, rfl, authenticated⟩ |
        ⟨old, oldMem, rfl | rfl⟩
      · rw [after_accounts] at authenticated
        exact ⟨Connection.kept_authenticated handshake verified,
          (admitted_of_authenticate authenticated).append _⟩
      · rcases ih socket oldMem with ⟨kept, admitted⟩
        exact ⟨kept.mono now_le_step, admitted.append _⟩
      · rcases ih old oldMem with ⟨kept, admitted⟩
        rcases Connection.react_handshake label with ⟨sameHandshake, sameVerified⟩
        rw [sameHandshake, sameVerified]
        exact ⟨(kept.react label).mono now_le_step, admitted.append _⟩

/-- Sockets, whatever happens on them and to the accounts meanwhile.  A connected socket whose
token ends has a timer; when no timer is due the token has not ended yet, or the timer fires in
the next millisecond, and it is set before the end only where that is out of its reach.  A closed
socket has no timer and is in no room.  The token it came with was signed for the user of the
socket while the account was there and confirmed, and in the feed, unless the account was deleted
since, are only those whose profile is a company now. -/
theorem sockets_match_accounts (services : Services) (jwt : JWTVerify)
    (labels : List ConnectionLabel) (socket : Connection)
    (mem : socket ∈ (after services jwt labels).sockets) :
    let state := after services jwt labels
    let user := socket.verified.user
    (∀ expiresAt, socket.isConnected = true → socket.verified.expiresAt = some expiresAt →
        ∃ due, socket.expiryTimer = some due ∧
          (state.now < due → state.now < expiresAt ∨ due = state.now + 1) ∧
            (due < expiresAt → due + 2147483647 ≤ expiresAt)) ∧
      (socket.isConnected = false → socket.expiryTimer = none ∧ socket.inFeed = false) ∧
      ∃ token earlier event later, readHandshakeToken socket.handshake = some token ∧
        labels.filterMap ConnectionLabel.account? = earlier ++ .sign token event :: later ∧
        event.userId = user.id ∧
        (∃ account ∈ (TokenState.after services earlier).database.users,
          account.id = user.id ∧ account.emailConfirmedAt ≠ none) ∧
        (socket.inFeed = true → (∀ moment, .statement (.deleteUser moment user.id) ∉ later) →
          ∃ profile ∈ state.accounts.database.profiles,
            profile.id = user.id ∧ profile.user.role = .company) := by
  intro state user
  rcases after_kept socket mem with
    ⟨kept, isVerified, token, isToken, earlier, event, later, signed⟩
  refine ⟨?_, ?_, token, earlier, event, later, isToken, signed.labels, signed.userId,
    signed.emailVerified.mp isVerified, ?_⟩
  · intro expiresAt connected ends
    rcases kept.timed expiresAt connected ends with ⟨due, isDue, atEnd | ⟨soon, away⟩⟩
    · exact ⟨due, isDue, fun ahead => Or.inl (atEnd ▸ ahead), fun short => by omega⟩
    · have isSoon : due ≤ state.now + 1 := soon
      exact ⟨due, isDue, fun ahead => Or.inr (by omega), fun short => by omega⟩
  · intro gone
    constructor
    · by_contra running
      rcases Option.ne_none_iff_exists'.mp running with ⟨due, isDue⟩
      exact absurd (kept.timer due isDue) (by simp [gone])
    · by_contra fed
      exact absurd (kept.connected (by simpa using fed)) (by simp [gone])
  · intro fed notDeleted
    have isCompany := (signed.role_iff isVerified notDeleted .company).mp (kept.company fed)
    simp only [state, after_accounts]
    exact isCompany

theorem sockets_match_accounts_example :
    let labels : List ConnectionLabel := exampleLabels.map .account ++
      [.handshake { authToken := some (.string "token"), authorization := none },
        .handleConnection 0]
    ∃ socket ∈ (after AuthDatabase.exampleServices exampleVerify labels).sockets,
      socket.isConnected = true ∧ readHandshakeToken socket.handshake = some "token" ∧
        ∃ account : AuthUserRow, account.id = socket.verified.user.id ∧
          account.emailConfirmedAt ≠ none := by
  intro labels
  rcases verify_example with ⟨verified, returned, isVerified⟩
  have authenticated : OrderGateway.authenticate exampleVerify
      (TokenState.after AuthDatabase.exampleServices exampleLabels).tokens 0
        { authToken := some (.string "token"), authorization := none } = .ok verified := by
    simp [OrderGateway.authenticate, readHandshakeToken, returned, isVerified]
  have mem : Connection.handleConnection 0
      { handshake := { authToken := some (.string "token"), authorization := none }, verified } ∈
      (after AuthDatabase.exampleServices exampleVerify labels).sockets := by
    change _ ∈ (step AuthDatabase.exampleServices exampleVerify
      (step AuthDatabase.exampleServices exampleVerify
      { initial with accounts := TokenState.after AuthDatabase.exampleServices exampleLabels }
      (.handshake _)) (.handleConnection 0)).sockets
    rw [step_handshake authenticated]
    exact List.mem_singleton.mpr rfl
  rcases sockets_match_accounts AuthDatabase.exampleServices exampleVerify labels _ mem with
    ⟨-, -, token, earlier, event, later, -, -, -, ⟨account, -, isId, confirmed⟩, -⟩
  exact ⟨_, mem, rfl, rfl, account, isId, confirmed⟩

end ConnectionState

end MyBuild
