import RealmPlan.Counters.Registry
import RealmPlan.Events
import RealmPlan.Settings

namespace RealmPlan

-- What outlives a pass: the counters, and who listens to the log.
structure Service where
  counters : Counters := {}
  -- Counters are kept from the start and shown once they are registered.
  registry : Registry := {}
  subscriber : Option Log.Subscriber := none
  -- What was written to the log.
  lines : List Log.Line := []

namespace Service

def log (service : Service) (events : List Log.Event) : Service :=
  match service.subscriber with
  | some subscriber => { service with lines := service.lines ++ subscriber.lines events }
  | none => service

def subscribedTwice : String :=
  "Failed to initialize tracing subscriber: a global default trace dispatcher has already been set"

-- There is one listener, and it stays.
def subscribe (service : Service) (subscriber : Log.Subscriber) : Except String Service :=
  match service.subscriber with
  | some _ => .error subscribedTwice
  | none => .ok { service with subscriber := some subscriber }

-- What a registration is answered, and what it leaves.
def registration (service : Service) : Except String Unit × Service :=
  let (answer, registry) := service.registry.register Counters.familyNames
  (answer, { service with registry })

def register (service : Service) : Service := service.registration.2

def exposition (service : Service) : String := Counters.exposition (service.registry.shown service.counters)

def plan (service : Service) (resource : Resource) (observation : Observation) : Plan × Service :=
  (resource.plan observation, service.log (Events.ofPlanning resource observation))

def rolePlan (service : Service) (resource : Resource) (observation : Observation) : Plan × Service :=
  (resource.rolePlan observation,
   service.log (Events.ofRoles resource.spec.roles observation.roles))

def recordPlan (service : Service) (plan : Plan) : Service :=
  { service with counters := service.counters.recordPlan plan }

def execute (service : Service) (settings : Settings) (transport : Transport) (plan : Plan) :
    Execution × Service :=
  let execution := Execution.run transport settings.abortOnUnavailable plan
  let service := service.log (Events.ofExecution plan execution)
  (execution, { service with counters := service.counters.recordExecution execution })

end Service
end RealmPlan
