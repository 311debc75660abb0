import HomeEntities.Setup.Candidate
import HomeEntities.Setup.EntityId

/-!
# Set-up

The entities of all platforms for one tree. Of the candidates of a platform that share a unique
id only the first is kept; entity ids that are taken get a number; every entity is read once.

* `Progress.consider`: what becomes of one candidate.
* `setUpWith`: set-up for the platforms of a table.
* `setUp`: set-up for all platforms.
-/

namespace HomeEntities

/-- How far set-up has come. -/
structure Progress where
  /-- The platform and unique id of every entity kept. -/
  keys : List (Platform × String) := []
  /-- The entity ids given out. -/
  entityIds : List String := []
  entities : List Entity := []
  events : List Event := []

namespace Progress

def log (events : List Event) (p : Progress) : Progress := { p with events := p.events ++ events }

/-- Keep a candidate unless its unique id was there before on the platform. -/
def consider (snapshot : Device) (platform : Platform) (p : Progress) (e : Entity) : Progress :=
  if p.keys.contains (platform, e.uniqueId) then
    p.log [.duplicate platform e.uniqueId e.entityId]
  else
    let entityId := freeId e.entityId p.entityIds
    let (entity, events) := Entity.update snapshot { e with entityId }
    { keys := (platform, e.uniqueId) :: p.keys
      entityIds := entityId :: p.entityIds
      entities := p.entities ++ [entity]
      events := p.events ++ events }

/-- Go through the candidates of one platform. -/
def platform (root : Device) (extras : Extras) (p : Progress) (platform : Platform) :
    Except NoUniqueId Progress :=
  match platform.candidates root extras with
  | .error e => .error e
  | .ok created =>
    let p := p.log (platform.events root ++ [.created created.length platform])
    .ok (created.foldl (consider root platform) p)

end Progress

/-- The entities of the platforms of a table, and what is worth logging. -/
def setUpWith (table : List Platform) (root : Device) (extras : Extras) :
    Except NoUniqueId (List Entity × List Event) :=
  match table.foldlM (Progress.platform root extras) {} with
  | .error e => .error e
  | .ok p => .ok (p.entities, p.events ++ [.setUp p.entities.length root.name])

/-- The entities of all platforms, and what is worth logging. -/
def setUp (root : Device) (extras : Extras) : Except NoUniqueId (List Entity × List Event) :=
  setUpWith Platform.all root extras

end HomeEntities
