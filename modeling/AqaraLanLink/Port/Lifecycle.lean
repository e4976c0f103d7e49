import AqaraLanLink.Library.Runs
import Mathlib.Logic.Function.Basic
import Mathlib.Data.List.Basic
import Mathlib.Order.Nat

/-!
# The connection lifecycle of the plugin

`start`, `connect`, `retryLater` and `stop` of `AqaraPlatform` as a labelled transition system, with
the sockets of the tunnels they create.  A `start` runs from one `await` to the next, and everything
else that can happen in between is a label of its own.
-/

namespace AqaraLanLink
namespace Port
namespace Lifecycle

open Library

/-! ## The machine -/

/-- The socket of a tunnel. -/
inductive Socket where
  /-- There is none, or its `close` event has been handled. -/
  | closed
  /-- `createConnection` has been called. -/
  | connecting
  /-- The `connect` event has set `tunnel.socket`. -/
  | connected
  /-- `tunnel.close` has destroyed it; its `close` event is still to come. -/
  | destroyed
  deriving DecidableEq, Repr

/-- Where a `start` that has not returned is. -/
inductive Stage where
  /-- It asks the cloud, or looks for the hub on the network. -/
  | cloud
  /-- It waits for the socket of this tunnel. -/
  | connecting (tunnel : ℕ)
  /-- It runs the handshake. -/
  | handshake (tunnel : ℕ)
  /-- It waits for the answer to the check-in. -/
  | checkin (tunnel : ℕ)
  deriving DecidableEq, Repr

/-- The platform and its tunnels, which are numbered as they are created; `platform.tunnel` is the
last one. -/
structure Plugin where
  /-- How many tunnels have been created. -/
  count : ℕ
  /-- Their sockets. -/
  sockets : ℕ → Socket
  /-- The `start` calls that have not returned. -/
  starts : List Stage
  /-- Whether `retryTimer` is armed. -/
  retryTimer : Bool
  /-- The tunnels whose check-in the hub has granted. -/
  granted : List ℕ
  /-- The tunnels whose `start` has ended without a session. -/
  failed : List ℕ
  /-- Whether Homebridge has launched the platform. -/
  launched : Bool
  /-- How many tunnels there were when `stop` was called. -/
  stoppedAt : Option ℕ

/-- What happens to the platform. -/
inductive Label where
  /-- `didFinishLaunching`. -/
  | launch
  /-- A `start` throws before it has a hub. -/
  | cloudFails
  /-- A `start` finds no hub. -/
  | noHub
  /-- A `start` finds a hub and connects. -/
  | hubFound
  /-- The `connect` event of a socket, in time or late. -/
  | tcpConnected (tunnel : ℕ)
  /-- A socket fails before it has connected. -/
  | tcpFailed (tunnel : ℕ)
  /-- The connection timeout of a tunnel. -/
  | tcpTimedOut (tunnel : ℕ)
  /-- Both sides have proved the session key. -/
  | handshakeDone (tunnel : ℕ)
  /-- The handshake throws. -/
  | handshakeFailed (tunnel : ℕ)
  /-- The hub answers the check-in; `granted` is whether its code is 0. -/
  | checkinAnswered (tunnel : ℕ) (granted : Bool)
  /-- The check-in is rejected by its timeout or by the end of the connection. -/
  | checkinSilent (tunnel : ℕ)
  /-- Publishing the devices throws. -/
  | publishFails (tunnel : ℕ)
  /-- A frame that can never be right makes the tunnel close itself. -/
  | badFrame (tunnel : ℕ)
  /-- The `close` event of a socket. -/
  | socketCloses (tunnel : ℕ)
  /-- The retry timer fires. -/
  | retryFires
  /-- `shutdown`. -/
  | stop
  deriving DecidableEq, Repr

/-- `retryLater`. -/
def Plugin.retryLater (plugin : Plugin) : Plugin :=
  if plugin.retryTimer then plugin else { plugin with retryTimer := true }

/-- A socket changes. -/
def Plugin.setSocket (plugin : Plugin) (tunnel : ℕ) (socket : Socket) : Plugin :=
  { plugin with sockets := Function.update plugin.sockets tunnel socket }

/-- A `start` returns. -/
def Plugin.finish (plugin : Plugin) (stage : Stage) : Plugin :=
  { plugin with starts := plugin.starts.erase stage }

/-- A `start` moves on. -/
def Plugin.proceed (plugin : Plugin) (before after : Stage) : Plugin :=
  { plugin with starts := plugin.starts.map fun stage => if stage = before then after else stage }

/-- A `start` ends without a session on its tunnel, and schedules a retry. -/
def Plugin.giveUp (plugin : Plugin) (tunnel : ℕ) (stage : Stage) : Plugin :=
  Plugin.retryLater { plugin.finish stage with failed := tunnel :: plugin.failed }

/-- `stop`: clear the timer, and close the current tunnel. -/
def Plugin.stop (plugin : Plugin) : Plugin :=
  { plugin with
    retryTimer := false
    sockets :=
      if plugin.sockets (plugin.count - 1) = .connected then
        Function.update plugin.sockets (plugin.count - 1) .destroyed
      else plugin.sockets
    stoppedAt := some plugin.count }

/-- When a label is possible. -/
def Possible (plugin : Plugin) : Label → Prop
  | .launch => plugin.launched = false
  | .cloudFails => .cloud ∈ plugin.starts
  | .noHub => .cloud ∈ plugin.starts
  | .hubFound => .cloud ∈ plugin.starts
  | .tcpConnected tunnel => plugin.sockets tunnel = .connecting
  | .tcpFailed tunnel => plugin.sockets tunnel = .connecting
  | .tcpTimedOut tunnel => .connecting tunnel ∈ plugin.starts
  | .handshakeDone tunnel => .handshake tunnel ∈ plugin.starts
  | .handshakeFailed tunnel => .handshake tunnel ∈ plugin.starts
  | .checkinAnswered tunnel _ => .checkin tunnel ∈ plugin.starts ∧
      (plugin.sockets tunnel = .connected ∨ plugin.sockets tunnel = .destroyed)
  | .checkinSilent tunnel => .checkin tunnel ∈ plugin.starts
  | .publishFails tunnel => .checkin tunnel ∈ plugin.starts
  | .badFrame tunnel => plugin.sockets tunnel = .connected
  | .socketCloses tunnel => plugin.sockets tunnel = .connected ∨ plugin.sockets tunnel = .destroyed
  | .retryFires => plugin.retryTimer = true
  | .stop => plugin.stoppedAt = none

/-- What a label does. -/
def perform (plugin : Plugin) : Label → Plugin
  | .launch => { plugin with launched := true, starts := .cloud :: plugin.starts }
  | .cloudFails => (plugin.finish .cloud).retryLater
  | .noHub => plugin.finish .cloud
  | .hubFound =>
      let tunnel := plugin.count
      { (plugin.finish .cloud).setSocket tunnel .connecting with
        count := tunnel + 1
        starts := .connecting tunnel :: plugin.starts.erase .cloud }
  | .tcpConnected tunnel =>
      (plugin.setSocket tunnel .connected).proceed (.connecting tunnel) (.handshake tunnel)
  | .tcpFailed tunnel =>
      let plugin := plugin.setSocket tunnel .closed
      if .connecting tunnel ∈ plugin.starts then plugin.giveUp tunnel (.connecting tunnel)
      else plugin
  | .tcpTimedOut tunnel => plugin.giveUp tunnel (.connecting tunnel)
  | .handshakeDone tunnel => plugin.proceed (.handshake tunnel) (.checkin tunnel)
  | .handshakeFailed tunnel => plugin.giveUp tunnel (.handshake tunnel)
  | .checkinAnswered tunnel granted =>
      { plugin.finish (.checkin tunnel) with
        granted := if granted then tunnel :: plugin.granted else plugin.granted
        failed := if granted then plugin.failed else tunnel :: plugin.failed }
  | .checkinSilent tunnel => plugin.giveUp tunnel (.checkin tunnel)
  | .publishFails tunnel => plugin.giveUp tunnel (.checkin tunnel)
  | .badFrame tunnel => plugin.setSocket tunnel .destroyed
  | .socketCloses tunnel => (plugin.setSocket tunnel .closed).retryLater
  | .retryFires => { plugin with retryTimer := false, starts := .cloud :: plugin.starts }
  | .stop => plugin.stop

/-- The plugin, from the moment Homebridge has constructed it. -/
def machine : Machine Plugin Label where
  initial plugin := plugin.count = 0 ∧ (∀ tunnel, plugin.sockets tunnel = .closed) ∧
    plugin.starts = [] ∧ plugin.retryTimer = false ∧ plugin.launched = false ∧
    plugin.stoppedAt = none
  step plugin label next := Possible plugin label ∧ next = perform plugin label

variable {plugin next : Plugin}

/-! ## One tunnel at a time -/

/-- A socket that the platform is done with. -/
def Socket.Done (socket : Socket) : Prop := socket = .closed ∨ socket = .destroyed

/-- What an orderly connection lifecycle promises. -/
structure Orderly (plugin : Plugin) : Prop where
  /-- At most one tunnel has an open socket. -/
  single : ∀ first second, plugin.sockets first = .connected →
    plugin.sockets second = .connected → first = second
  /-- A tunnel that failed to come up is closed before the next one is opened. -/
  cleared : ∀ tunnel ∈ plugin.failed, tunnel + 1 < plugin.count → (plugin.sockets tunnel).Done
  /-- At most one `start` is in progress. -/
  starts : plugin.starts.length ≤ 1
  /-- After `stop` nothing is armed, open or attempted. -/
  stopped : ∀ count, plugin.stoppedAt = some count →
    plugin.retryTimer = false ∧ (∀ tunnel, plugin.sockets tunnel ≠ .connected) ∧
      plugin.count = count

/-- A new tunnel, a retry and `stop` come only when the tunnels and the `start` before them have
ended. -/
def Calm (plugin : Plugin) : Label → Prop
  | .launch => plugin.stoppedAt = none
  | .hubFound => ∀ tunnel, (plugin.sockets tunnel).Done
  | .retryFires => plugin.starts = []
  | .stop => plugin.starts = [] ∧ ∀ tunnel, plugin.sockets tunnel = .closed
  | _ => True

/-- Nothing is in progress, armed or open. -/
def AtRest (plugin : Plugin) : Prop :=
  plugin.starts = [] ∧ plugin.retryTimer = false ∧ ∀ tunnel, plugin.sockets tunnel = .closed

/-- The platform has been launched and has not been stopped. -/
def Active (plugin : Plugin) : Prop := plugin.launched = true ∧ plugin.stoppedAt = none

/-- What holds in every state of a calm run. -/
structure Settled (plugin : Plugin) : Prop where
  starts : plugin.starts.length ≤ 1
  /-- Only the last tunnel can be in use. -/
  earlier : ∀ tunnel, tunnel + 1 ≠ plugin.count → (plugin.sockets tunnel).Done
  unlaunched : plugin.launched = false → AtRest plugin
  stopped : ∀ count, plugin.stoppedAt = some count → AtRest plugin ∧ plugin.count = count

/-- Only the last tunnel can be connecting or open. -/
theorem Settled.last (settled : Settled plugin) {tunnel : ℕ}
    (used : ¬ (plugin.sockets tunnel).Done) : tunnel + 1 = plugin.count := by
  by_contra early
  exact used (settled.earlier tunnel early)

theorem Settled.orderly (settled : Settled plugin) : Orderly plugin where
  single first second firstOpen secondOpen := by
    have used : ∀ tunnel, plugin.sockets tunnel = .connected → ¬ (plugin.sockets tunnel).Done :=
      fun tunnel isOpen => by simp [Socket.Done, isOpen]
    have firstLast := settled.last (used first firstOpen)
    have secondLast := settled.last (used second secondOpen)
    omega
  cleared tunnel _ early := settled.earlier tunnel early.ne
  starts := settled.starts
  stopped count same := by
    obtain ⟨⟨-, timer, closed⟩, rfl⟩ := settled.stopped count same
    exact ⟨timer, fun tunnel isOpen => (nomatch isOpen.symm.trans (closed tunnel)), rfl⟩

/-- A platform that is not at rest has been launched and has not been stopped. -/
theorem Settled.active (settled : Settled plugin) (busy : ¬ AtRest plugin) : Active plugin := by
  refine ⟨?_, ?_⟩
  · cases launched : plugin.launched with
    | true => rfl
    | false => exact absurd (settled.unlaunched launched) busy
  · cases stopped : plugin.stoppedAt with
    | none => rfl
    | some count => exact absurd (settled.stopped count stopped).1 busy

theorem Settled.active_of_start (settled : Settled plugin) {stage : Stage}
    (started : stage ∈ plugin.starts) : Active plugin :=
  settled.active fun rest => nomatch rest.1 ▸ started

theorem Settled.active_of_socket (settled : Settled plugin) {tunnel : ℕ}
    (used : plugin.sockets tunnel ≠ .closed) : Active plugin :=
  settled.active fun rest => used (rest.2.2 tunnel)

theorem Settled.active_of_connecting (settled : Settled plugin) {tunnel : ℕ}
    (connecting : plugin.sockets tunnel = .connecting) : Active plugin := by
  have used : plugin.sockets tunnel ≠ .closed := by simp [connecting]
  exact settled.active_of_socket used

/-- A step of an active platform that creates neither a tunnel nor a `start`. -/
theorem Settled.keep (settled : Settled plugin) (active : Active plugin)
    (launched : next.launched = plugin.launched) (stoppedAt : next.stoppedAt = plugin.stoppedAt)
    (count : next.count = plugin.count) (starts : next.starts.length ≤ plugin.starts.length)
    (sockets : ∀ tunnel, tunnel + 1 ≠ plugin.count →
      next.sockets tunnel = plugin.sockets tunnel ∨ (next.sockets tunnel).Done) :
    Settled next where
  starts := starts.trans settled.starts
  earlier tunnel early := by
    rw [count] at early
    rcases sockets tunnel early with same | done
    · rw [same]
      exact settled.earlier tunnel early
    · exact done
  unlaunched idle := by
    rw [launched, active.1] at idle
    exact nomatch idle
  stopped count same := by
    rw [stoppedAt, active.2] at same
    exact nomatch same

@[simp] theorem retryLater_eq (plugin : Plugin) :
    plugin.retryLater = { plugin with retryTimer := true } := by
  rw [Plugin.retryLater]
  split
  · rename_i armed
    rw [← armed]
  · rfl

theorem length_finish_le (plugin : Plugin) (stage : Stage) :
    (plugin.finish stage).starts.length ≤ plugin.starts.length := List.length_erase_le

theorem length_proceed (plugin : Plugin) (before after : Stage) :
    (plugin.proceed before after).starts.length = plugin.starts.length := List.length_map _

@[simp] theorem setSocket_self (plugin : Plugin) (tunnel : ℕ) (socket : Socket) :
    (plugin.setSocket tunnel socket).sockets tunnel = socket := Function.update_self ..

theorem setSocket_of_ne (plugin : Plugin) {tunnel other : ℕ} (different : other ≠ tunnel)
    (socket : Socket) : (plugin.setSocket tunnel socket).sockets other = plugin.sockets other :=
  Function.update_of_ne different ..

theorem Settled.retryLater (settled : Settled plugin) (active : Active plugin) :
    Settled plugin.retryLater := by
  rw [retryLater_eq]
  exact settled.keep active rfl rfl rfl le_rfl fun _ _ => Or.inl rfl

theorem Settled.finish (settled : Settled plugin) {stage : Stage} (started : stage ∈ plugin.starts) :
    Settled (plugin.finish stage) :=
  settled.keep (settled.active_of_start started) rfl rfl rfl (length_finish_le plugin stage)
    fun _ _ => Or.inl rfl

theorem Settled.giveUp (settled : Settled plugin) {stage : Stage} (started : stage ∈ plugin.starts)
    (tunnel : ℕ) : Settled (plugin.giveUp tunnel stage) := by
  rw [Plugin.giveUp, retryLater_eq]
  exact settled.keep (settled.active_of_start started) rfl rfl rfl (length_finish_le plugin stage)
    fun _ _ => Or.inl rfl

theorem Settled.proceed (settled : Settled plugin) (active : Active plugin) (before after : Stage) :
    Settled (plugin.proceed before after) :=
  settled.keep active rfl rfl rfl (length_proceed plugin before after).le fun _ _ => Or.inl rfl

/-- A socket ends, or that of the last tunnel changes. -/
theorem Settled.setSocket (settled : Settled plugin) (active : Active plugin) {tunnel : ℕ}
    {socket : Socket} (ends : tunnel + 1 = plugin.count ∨ socket.Done) :
    Settled (plugin.setSocket tunnel socket) := by
  refine settled.keep active rfl rfl rfl le_rfl fun other early => ?_
  by_cases same : other = tunnel
  · subst same
    rw [setSocket_self]
    exact Or.inr (ends.resolve_left early)
  · exact Or.inl (setSocket_of_ne plugin same socket)

/-- A new tunnel comes after every other one is done. -/
theorem Settled.hubFound (settled : Settled plugin) (started : .cloud ∈ plugin.starts)
    (done : ∀ tunnel, (plugin.sockets tunnel).Done) : Settled (perform plugin .hubFound) := by
  have active := settled.active_of_start started
  refine ⟨?_, fun tunnel early => ?_, fun idle => ?_, fun count same => ?_⟩
  · have shorter := List.length_erase_of_mem started
    have := settled.starts
    simp only [perform, List.length_cons]
    omega
  · have other : tunnel ≠ plugin.count := fun same => early (congrArg (· + 1) same)
    simp only [perform, setSocket_of_ne _ other]
    exact done tunnel
  · exact nomatch active.1.symm.trans idle
  · exact nomatch active.2.symm.trans same

/-- A `start` begins when none is in progress. -/
theorem Settled.begin (settled : Settled plugin) (idle : plugin.starts = [])
    (launched : next.launched = true) (running : next.stoppedAt = none)
    (starts : next.starts = .cloud :: plugin.starts) (count : next.count = plugin.count)
    (sockets : next.sockets = plugin.sockets) : Settled next where
  starts := by simp [starts, idle]
  earlier := by
    rw [sockets, count]
    exact settled.earlier
  unlaunched := by simp [launched]
  stopped := by simp [running]

/-- A calm label keeps the invariant. -/
theorem Settled.step (settled : Settled plugin) {label : Label}
    (possible : Possible plugin label) (calm : Calm plugin label) :
    Settled (perform plugin label) := by
  cases label with
  | launch => exact settled.begin (settled.unlaunched possible).1 rfl calm rfl rfl rfl
  | cloudFails => exact (settled.finish possible).retryLater (settled.active_of_start possible)
  | noHub => exact settled.finish possible
  | hubFound => exact settled.hubFound possible calm
  | tcpConnected tunnel =>
      have connecting : plugin.sockets tunnel = .connecting := possible
      have active := settled.active_of_connecting connecting
      have last : tunnel + 1 = plugin.count := settled.last (by simp [Socket.Done, connecting])
      exact (settled.setSocket active (Or.inl last)).proceed active _ _
  | tcpFailed tunnel =>
      have connecting : plugin.sockets tunnel = .connecting := possible
      have active := settled.active_of_connecting connecting
      have closed : Settled (plugin.setSocket tunnel .closed) :=
        settled.setSocket active (Or.inr (Or.inl rfl))
      rw [perform]
      split
      · rename_i waiting
        exact closed.giveUp waiting tunnel
      · exact closed
  | tcpTimedOut tunnel => exact settled.giveUp possible tunnel
  | handshakeDone tunnel => exact settled.proceed (settled.active_of_start possible) _ _
  | handshakeFailed tunnel => exact settled.giveUp possible tunnel
  | checkinAnswered tunnel granted =>
      exact settled.keep (settled.active_of_start possible.1) rfl rfl rfl
        (length_finish_le plugin (.checkin tunnel)) fun _ _ => Or.inl rfl
  | checkinSilent tunnel => exact settled.giveUp possible tunnel
  | publishFails tunnel => exact settled.giveUp possible tunnel
  | badFrame tunnel =>
      have connected : plugin.sockets tunnel = .connected := possible
      have used : plugin.sockets tunnel ≠ .closed := by simp [connected]
      have active := settled.active_of_socket used
      exact settled.setSocket active (Or.inr (Or.inr rfl))
  | socketCloses tunnel =>
      have used : plugin.sockets tunnel ≠ .closed := by
        rcases possible with connected | destroyed
        · simp [connected]
        · simp [destroyed]
      have active := settled.active_of_socket used
      exact (settled.setSocket active (Or.inr (Or.inl rfl))).retryLater active
  | retryFires =>
      have active := settled.active fun rest => nomatch rest.2.1.symm.trans possible
      exact settled.begin calm active.1 active.2 rfl rfl rfl
  | stop =>
      obtain ⟨idle, closed⟩ := calm
      have same : (perform plugin .stop).sockets = plugin.sockets := by
        simp [perform, Plugin.stop, closed]
      refine ⟨settled.starts, ?_, ?_, ?_⟩
      · rw [same]
        exact settled.earlier
      · exact fun _ => ⟨idle, rfl, fun tunnel => by rw [same, closed]⟩
      · rintro count ⟨⟩
        exact ⟨⟨idle, rfl, fun tunnel => by rw [same, closed]⟩, rfl⟩

/-- In every calm run the connection lifecycle is orderly. -/
theorem lifecycle_orderly {labels : List Label} {plugin : Plugin}
    (run : machine.Run Calm labels plugin) : Orderly plugin := by
  refine Settled.orderly (run.invariant ?_ ?_)
  · rintro plugin ⟨count, closed, starts, timer, launched, stopped⟩
    exact ⟨by simp [starts], fun tunnel _ => Or.inl (closed tunnel), fun _ => ⟨starts, timer, closed⟩,
      by simp [stopped]⟩
  · rintro plugin label next settled calm ⟨possible, rfl⟩
    exact settled.step possible calm

/-- The platform after construction. -/
def constructed : Plugin := ⟨0, fun _ => .closed, [], false, [], [], false, none⟩

theorem run_constructed (good : Plugin → Label → Prop) : machine.Run good [] constructed :=
  .start ⟨rfl, fun _ => rfl, rfl, rfl, rfl, rfl⟩

/-- A session comes up, the hub closes the connection, and the platform is stopped. -/
theorem lifecycle_orderly_session :
    Orderly (perform (perform (perform (perform (perform (perform (perform constructed .launch)
      .hubFound) (.tcpConnected 0)) (.handshakeDone 0)) (.checkinAnswered 0 true))
      (.socketCloses 0)) .stop) :=
  lifecycle_orderly <| (run_constructed Calm)
    |>.extend .launch rfl ⟨rfl, rfl⟩
    |>.extend .hubFound (fun _ => Or.inl rfl) ⟨List.mem_singleton.mpr rfl, rfl⟩
    |>.extend (.tcpConnected 0) trivial ⟨rfl, rfl⟩
    |>.extend (.handshakeDone 0) trivial ⟨List.mem_singleton.mpr rfl, rfl⟩
    |>.extend (.checkinAnswered 0 true) trivial ⟨⟨List.mem_singleton.mpr rfl, Or.inl rfl⟩, rfl⟩
    |>.extend (.socketCloses 0) trivial ⟨Or.inl rfl, rfl⟩
    |>.extend .stop ⟨rfl, fun tunnel => by cases tunnel <;> rfl⟩ ⟨rfl, rfl⟩

/-- After a failed handshake the retry opens a second tunnel beside the first. -/
theorem second_tunnel_opened :
    ∃ labels plugin, machine.Run (fun _ _ => True) labels plugin ∧ ¬ Orderly plugin := by
  refine ⟨_, _, (run_constructed fun _ _ => True)
    |>.extend .launch trivial ⟨rfl, rfl⟩
    |>.extend .hubFound trivial ⟨List.mem_singleton.mpr rfl, rfl⟩
    |>.extend (.tcpConnected 0) trivial ⟨rfl, rfl⟩
    |>.extend (.handshakeFailed 0) trivial ⟨List.mem_singleton.mpr rfl, rfl⟩
    |>.extend .retryFires trivial ⟨rfl, rfl⟩
    |>.extend .hubFound trivial ⟨List.mem_singleton.mpr rfl, rfl⟩
    |>.extend (.tcpConnected 1) trivial ⟨rfl, rfl⟩, fun orderly => ?_⟩
  exact absurd (orderly.single 0 1 rfl rfl) Nat.zero_ne_one

/-! ## A way back -/

/-- A session is up on an open socket, a `start` is in progress, or the retry timer is armed. -/
def Hopeful (plugin : Plugin) : Prop :=
  (∃ tunnel ∈ plugin.granted, plugin.sockets tunnel = .connected) ∨ plugin.starts ≠ [] ∨
    plugin.retryTimer = true

/-- From the first `start` until `stop`, the platform has a way back. -/
def KeepsTrying (plugin : Plugin) : Prop :=
  plugin.launched = true → plugin.stoppedAt = none → Hopeful plugin

/-- The platform has a way back besides one of its `start` calls. -/
def HopefulBesideStart (plugin : Plugin) : Prop :=
  (∃ tunnel ∈ plugin.granted, plugin.sockets tunnel = .connected) ∨ 1 < plugin.starts.length ∨
    plugin.retryTimer = true

/-- A `start` that finds no hub, an answer to the check-in that is no session, and an unreadable
frame come only when something else gives the platform a way back. -/
def Covered (plugin : Plugin) : Label → Prop
  | .noHub => HopefulBesideStart plugin
  | .checkinAnswered tunnel granted =>
      granted = true ∧ plugin.sockets tunnel = .connected ∨ HopefulBesideStart plugin
  | .badFrame tunnel =>
      (∃ other ∈ plugin.granted, other ≠ tunnel ∧ plugin.sockets other = .connected) ∨
        plugin.starts ≠ [] ∨ plugin.retryTimer = true
  | _ => True

theorem hopeful_retryLater (plugin : Plugin) : Hopeful plugin.retryLater := by
  simp [Hopeful]

theorem hopeful_proceed {before : Stage} (started : before ∈ plugin.starts) (after : Stage) :
    Hopeful (plugin.proceed before after) :=
  Or.inr (Or.inl (by simpa [Plugin.proceed] using List.ne_nil_of_mem started))

/-- One `start` ends, and something else gives the platform a way back. -/
theorem hopeful_finish (beside : HopefulBesideStart plugin) {stage : Stage}
    (started : stage ∈ plugin.starts) : Hopeful (plugin.finish stage) := by
  rcases beside with session | many | armed
  · exact Or.inl session
  · refine Or.inr (Or.inl fun none => ?_)
    have shorter := List.length_erase_of_mem started
    rw [show plugin.starts.erase stage = [] from none, List.length_nil] at shorter
    omega
  · exact Or.inr (Or.inr armed)

/-- The socket of a tunnel that is not open changes. -/
theorem hopeful_setSocket (hopeful : Hopeful plugin) {tunnel : ℕ} {socket : Socket}
    (idle : socket = .connected ∨ plugin.sockets tunnel ≠ .connected) :
    Hopeful (plugin.setSocket tunnel socket) := by
  rcases hopeful with ⟨other, granted, isOpen⟩ | rest
  · refine Or.inl ⟨other, granted, ?_⟩
    by_cases same : other = tunnel
    · subst same
      rw [setSocket_self]
      exact idle.resolve_right fun shut => shut isOpen
    · rwa [setSocket_of_ne plugin same]
  · exact Or.inr rest

/-- A covered label leaves the platform with a way back. -/
theorem hopeful_perform (keeps : KeepsTrying plugin) {label : Label}
    (possible : Possible plugin label) (covered : Covered plugin label) :
    KeepsTrying (perform plugin label) := by
  intro launched running
  cases label with
  | launch => exact Or.inr (Or.inl (List.cons_ne_nil _ _))
  | cloudFails => exact hopeful_retryLater _
  | noHub => exact hopeful_finish covered possible
  | hubFound => exact Or.inr (Or.inl (List.cons_ne_nil _ _))
  | tcpConnected tunnel =>
      have hopeful : Hopeful (plugin.setSocket tunnel .connected) :=
        hopeful_setSocket (keeps launched running) (Or.inl rfl)
      rcases hopeful with session | busy | armed
      · exact Or.inl session
      · exact Or.inr (Or.inl (by simpa [perform, Plugin.proceed] using busy))
      · exact Or.inr (Or.inr armed)
  | tcpFailed tunnel =>
      have connecting : plugin.sockets tunnel = .connecting := possible
      rw [perform] at launched running ⊢
      split
      · exact hopeful_retryLater _
      · rename_i absent
        simp only [if_neg absent] at launched running
        exact hopeful_setSocket (keeps launched running) (Or.inr (by simp [connecting]))
  | tcpTimedOut tunnel => exact hopeful_retryLater _
  | handshakeDone tunnel => exact hopeful_proceed possible _
  | handshakeFailed tunnel => exact hopeful_retryLater _
  | checkinAnswered tunnel granted =>
      rcases covered with ⟨rfl, isOpen⟩ | beside
      · exact Or.inl ⟨tunnel, by simp [perform], isOpen⟩
      · rcases hopeful_finish beside possible.1 with ⟨other, member, isOpen⟩ | rest
        · refine Or.inl ⟨other, ?_, isOpen⟩
          cases granted with
          | false => exact member
          | true => exact List.mem_cons_of_mem _ member
        · exact Or.inr rest
  | checkinSilent tunnel => exact hopeful_retryLater _
  | publishFails tunnel => exact hopeful_retryLater _
  | badFrame tunnel =>
      rcases covered with ⟨other, granted, different, isOpen⟩ | rest
      · exact Or.inl ⟨other, granted, by rwa [perform, setSocket_of_ne plugin different]⟩
      · exact Or.inr rest
  | socketCloses tunnel => exact hopeful_retryLater _
  | retryFires => exact Or.inr (Or.inl (List.cons_ne_nil _ _))
  | stop => exact nomatch running

/-- In every run in which no uncovered step is taken, the platform keeps trying. -/
theorem platform_keeps_trying {labels : List Label} {plugin : Plugin}
    (run : machine.Run Covered labels plugin) : KeepsTrying plugin := by
  refine run.invariant ?_ ?_
  · rintro plugin ⟨-, -, -, -, unlaunched, -⟩ launched
    exact nomatch unlaunched.symm.trans launched
  · rintro plugin label next keeps covered ⟨possible, rfl⟩
    exact hopeful_perform keeps possible covered

/-- A session comes up after a failed attempt. -/
theorem platform_keeps_trying_session :
    KeepsTrying (perform (perform (perform (perform (perform (perform (perform constructed .launch)
      .cloudFails) .retryFires) .hubFound) (.tcpConnected 0)) (.handshakeDone 0))
      (.checkinAnswered 0 true)) :=
  platform_keeps_trying <| (run_constructed Covered)
    |>.extend .launch trivial ⟨rfl, rfl⟩
    |>.extend .cloudFails trivial ⟨List.mem_singleton.mpr rfl, rfl⟩
    |>.extend .retryFires trivial ⟨rfl, rfl⟩
    |>.extend .hubFound trivial ⟨List.mem_singleton.mpr rfl, rfl⟩
    |>.extend (.tcpConnected 0) trivial ⟨rfl, rfl⟩
    |>.extend (.handshakeDone 0) trivial ⟨List.mem_singleton.mpr rfl, rfl⟩
    |>.extend (.checkinAnswered 0 true) (Or.inl ⟨rfl, rfl⟩)
      ⟨⟨List.mem_singleton.mpr rfl, Or.inl rfl⟩, rfl⟩

/-- A first start that finds no hub leaves nothing behind that would try again. -/
theorem no_hub_gives_up :
    ∃ labels plugin, machine.Run (fun _ _ => True) labels plugin ∧ ¬ KeepsTrying plugin := by
  refine ⟨_, _, (run_constructed fun _ _ => True)
    |>.extend .launch trivial ⟨rfl, rfl⟩
    |>.extend .noHub trivial ⟨List.mem_singleton.mpr rfl, rfl⟩, fun keeps => ?_⟩
  rcases keeps rfl rfl with ⟨_, member, _⟩ | busy | armed
  · exact nomatch member
  · exact busy rfl
  · exact nomatch armed

end Lifecycle
end Port
end AqaraLanLink
