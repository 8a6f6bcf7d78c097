import MediaFilter.Session.Command
import MediaFilter.Simulation.Script
import MediaFilter.Table.Follower

/-!
A session at work with its list, on a clock of its own and with a backend that follows a script.
The clock stands still while anything can go on without it.  The session goes first, then whoever
follows it, then the calls that were begun are made in their order, and those answered at once are
completed; after that only the clock can bring something new.
-/

namespace MediaFilter

structure Arrival where
  due : Nat
  completion : Completion

inductive LoadOwner where
  /-- Someone who waits for the page. -/
  | waiting
  | background
  | follower (index : Nat)
  deriving DecidableEq

structure PendingPage where
  owner : LoadOwner
  table : Nat
  load : PageLoad
  due : Nat
  reply : Except Error Page

structure Following where
  table : Nat
  follower : Follower

/-- What can be seen of a session from outside. -/
structure Observed where
  calls : List BackendCall
  searches : List SearchRequest
  views : List ViewCall
  pages : List TablePage
  /-- What became of the pages asked for in the background, with their first rows. -/
  loaded : List (Nat × Loaded)

def Observed.nothing : Observed := ⟨[], [], [], [], []⟩

structure Simulation where
  now : Nat
  isRunning : Bool
  session : Session
  bus : EventBus Event
  script : Script
  requests : List (Ticket × BackendCall)
  arrivals : List Arrival
  tables : List Table
  pending : List PendingPage
  followings : List Following
  /-- Whether anyone takes the pages of a follower. -/
  arePagesTaken : Bool
  outcome : Option Loaded
  observed : Observed

namespace Simulation

def start (session : Session) (bus : EventBus Event) (script : Script) : Simulation :=
  { now := 0, isRunning := true, session, bus, script, requests := [], arrivals := []
    tables := [], pending := [], followings := [], arePagesTaken := true, outcome := none
    observed := .nothing }

/-- Forgets what was seen so far. -/
def lookAway (world : Simulation) : Simulation := { world with observed := .nothing }

def observe (change : Observed → Observed) (world : Simulation) : Simulation :=
  { world with observed := change world.observed }

def perform (world : Simulation) (effect : Effect) : Simulation :=
  match effect with
  | .drew call =>
    world.observe fun observed => { observed with views := observed.views ++ [call] }
  | .requested ticket call => { world with requests := world.requests ++ [(ticket, call)] }
  | .stored _ _ _ => world
  | .published _ => world
  | .emitted event => { world with bus := world.bus.emit event }

def take (acted : Acted Session) (world : Simulation) : Simulation :=
  acted.trace.foldl perform { world with session := acted.result }

def complete (world : Simulation) (completion : Completion) : Simulation :=
  world.take (world.session.complete completion)

def makeCall (world : Simulation) (request : Ticket × BackendCall) :
    Option Completion × Simulation :=
  let world := world.observe fun observed =>
    { observed with calls := observed.calls ++ [request.2] }
  match world.script.answer request.1 request.2 with
  | (some (0, completion), script) => (some completion, { world with script })
  | (some (delay, completion), script) =>
    (none, { world with
      script, arrivals := world.arrivals ++ [⟨world.now + delay, completion⟩] })
  | (none, script) => (none, { world with script })

def makeCalls : List (Ticket × BackendCall) → Simulation → List Completion × Simulation
  | [], world => ([], world)
  | request :: requests, world =>
    let (completion, world) := world.makeCall request
    let (completions, world) := makeCalls requests world
    (completion.toList ++ completions, world)

def makeRequestedCalls (world : Simulation) : Simulation :=
  let (completions, world) := makeCalls world.requests { world with requests := [] }
  completions.foldl complete world

def evaluateIfDue (world : Simulation) : Simulation :=
  if world.session.notifier.debouncer.isDue world.now then
    world.take world.session.onDeadline
  else world

def setTable (index : Nat) (table : Table) (world : Simulation) : Simulation :=
  { world with tables := world.tables.set index table }

/-- What becomes of a page for whoever asked for it; a follower goes on. -/
def deliver (owner : LoadOwner) (start : Nat) (loaded : Loaded) (world : Simulation) :
    Simulation :=
  match owner with
  | .waiting => { world with outcome := some loaded }
  | .background =>
    world.observe fun observed => { observed with loaded := observed.loaded ++ [(start, loaded)] }
  | .follower index =>
    let resume (following : Following) : Following :=
      match following.follower with
      | .loading position _ =>
        { following with follower := .resume position world.arePagesTaken loaded }
      | _ => following
    let pages :=
      match loaded with
      | .page page => if world.arePagesTaken then [page] else []
      | _ => []
    { world with followings := world.followings.modify index resume }.observe fun observed =>
      { observed with pages := observed.pages ++ pages }

def finishPage (page : PendingPage) (world : Simulation) : Simulation :=
  match world.tables[page.table]? with
  | none => world
  | some table =>
    let (loaded, table) := table.finish page.load page.reply
    (world.setTable page.table table).deliver page.owner page.load.request.start loaded

def callForPage (owner : LoadOwner) (table : Nat) (load : PageLoad) (world : Simulation) :
    Simulation :=
  let (reply, script) := world.script.nextPage
  let world := { world with script }.observe fun observed =>
    { observed with searches := observed.searches ++ [load.request] }
  let page := ⟨owner, table, load, world.now + reply.delay, reply.reply⟩
  if reply.delay = 0 then world.finishPage page
  else { world with pending := world.pending ++ [page] }

def isSuperseded (world : Simulation) (page : PendingPage) : Bool :=
  world.tables[page.table]?.any fun table => table.slots.isCancelled page.load.ticket

/-- Whoever waits for a page that was superseded does so no longer. -/
def dropSuperseded (world : Simulation) : Simulation :=
  let superseded := world.pending.filter world.isSuperseded
  superseded.foldl (fun world page => world.finishPage page)
    { world with pending := world.pending.filter fun page => !world.isSuperseded page }

def hear? (index : Nat) (world : Simulation) : Option Simulation :=
  match world.followings[index]? with
  | some ⟨tableIndex, .listening position⟩ =>
    match world.tables[tableIndex]? with
    | some table =>
      (Follower.hear? world.bus world.session.context table position).map fun found =>
        let world := { world.setTable tableIndex found.2 with
          followings := world.followings.set index ⟨tableIndex, found.1⟩ }
        match found.1 with
        | .loading _ load => world.callForPage (.follower index) tableIndex load
        | _ => world
    | none => none
  | _ => none

def hearAll (index : Nat) : (fuel : Nat) → Simulation → Simulation
  | 0, world => world
  | fuel + 1, world =>
    match world.dropSuperseded.hear? index with
    | some world => hearAll index fuel world
    | none => world.dropSuperseded

/-- Every event is heard once at most, so their number bounds the steps. -/
def follow (world : Simulation) : Simulation :=
  (List.range world.followings.length).foldl
    (fun world index => world.hearAll index (world.bus.history.size + 1)) world.dropSuperseded

def settle (world : Simulation) : Simulation :=
  world.evaluateIfDue.follow.makeRequestedCalls.follow

def dueTimes (world : Simulation) : List Nat :=
  world.session.notifier.deadline.toList ++ world.arrivals.map Arrival.due ++
    world.pending.map PendingPage.due

/-- What is due at a time or before it happens now. -/
def fire (time : Nat) (world : Simulation) : Simulation :=
  let now := max world.now time
  let arrivals := world.arrivals.filter fun arrival => arrival.due ≤ now
  let pages := world.pending.filter fun page => page.due ≤ now
  let world := { world with
    now
    arrivals := world.arrivals.filter fun arrival => now < arrival.due
    pending := world.pending.filter fun page => now < page.due }
  let world := arrivals.foldl (fun world arrival => world.complete arrival.completion) world
  (pages.foldl (fun world page => world.finishPage page) world).settle

/-- A bound on how often something becomes due: once for all that is due already, and for each
follower once for every event that it hears. -/
def dueBound (world : Simulation) : Nat :=
  let known := world.dueTimes.length + 1
  known + world.followings.length * (world.bus.history.size + known)

/-- Lets the clock go on until a test holds, or else as long as something is due by the given
time. -/
def runUntil (isDone : Simulation → Bool) (target : Option Nat) :
    (fuel : Nat) → Simulation → Simulation
  | 0, world => world
  | fuel + 1, world =>
    if isDone world then world
    else
      match (world.dueTimes.filter fun time => target.all (time ≤ ·)).min? with
      | some time => runUntil isDone target fuel (world.fire time)
      | none => world

def advance (milliseconds : Nat) (world : Simulation) : Simulation :=
  let target := world.now + milliseconds
  { world.runUntil (fun _ => false) (some target) world.dueBound with now := target }

def command (command : Command) (world : Simulation) : Except Error Answer × Simulation :=
  if world.isRunning then
    let acted := world.session.handle world.now command
    (acted.result.2, (world.take (acted.map Prod.fst)).settle)
  else (.error Session.notRunning, world)

def shutDown (world : Simulation) : Except Error Answer × Simulation :=
  if world.isRunning then
    (.ok .done, ({ world with isRunning := false }.take world.session.leave).settle)
  else (.error Session.alreadyStopped, world)

def snapshot (world : Simulation) : Except Error SessionSnapshot :=
  if world.isRunning then .ok world.session.snapshot else .error Session.notRunning

def setStoreFaults (load save : Option String) (world : Simulation) : Simulation :=
  { world with session := { world.session with
      store := { world.session.store with loadFault := load, saveFault := save } } }

def emit (event : Event) (world : Simulation) : Simulation :=
  { world with bus := world.bus.emit event }.settle

def addTable (table : Table) (world : Simulation) : Simulation :=
  { world with tables := world.tables ++ [table] }

def table? (world : Simulation) : Option (Nat × Table) :=
  world.tables.getLast?.map fun table => (world.tables.length - 1, table)

def setSearch (search : String) (world : Simulation) : Simulation :=
  match world.table? with
  | some (index, table) => world.setTable index (table.setSearch search)
  | none => world

/-- The request for a page that is not asked for. -/
def request (start : Nat) (world : Simulation) : Except Error SearchRequest × Simulation :=
  match world.table? with
  | some (index, table) =>
    match table.request world.session.context start with
    | .ok (request, table) => (.ok request, world.setTable index table)
    | .error error => (.error error, world)
  | none => (.error .noEntity, world)

def load (owner : LoadOwner) (start : Nat) (world : Simulation) : Simulation :=
  match world.table? with
  | some (index, table) =>
    match table.begin world.session.context start with
    | .ok (load, table) => ((world.setTable index table).callForPage owner index load).settle
    | .error error => world.deliver owner start (.failed error)
  | none => world

def loadAndWait (start : Nat) (world : Simulation) : Option Loaded × Simulation :=
  if world.tables.isEmpty then (none, world)
  else
    let world := { world with outcome := none }.load .waiting start
    let world := world.runUntil (fun world => world.outcome.isSome) none world.dueBound
    (world.outcome, world)

def addFollower (world : Simulation) : Simulation :=
  let (position, bus) := world.bus.subscribe
  { world with
    bus, followings := world.followings ++ [⟨world.tables.length - 1, .listening position⟩] }

def closePages (world : Simulation) : Simulation := { world with arePagesTaken := false }

end Simulation

end MediaFilter
