import HomeEntities.Entity.Basic
import HomeEntities.Text.Quoted

/-!
# Plans

A listing of entities, one line each.
-/

namespace HomeEntities

/-- The anchor of a device record in a plan. -/
def Link.planned : Link → String
  | .mac address => "mac=" ++ address
  | .via deviceId => "via=" ++ domain ++ ":" ++ deviceId

/-- The line of an entity. -/
def Entity.planLine (e : Entity) : String :=
  e.entityId ++ " unique_id=" ++ e.uniqueId
    ++ " device=" ++ Text.quoted e.identity.deviceInfo.name
    ++ " " ++ e.identity.deviceInfo.link.planned
    ++ " category=" ++ (e.identity.category.map EntityCategory.name).getD "-"
    ++ " enabled=" ++ (if e.enabled then "true" else "false") ++ "\n"

/-- The lines of all entities. -/
def renderPlan (entities : List Entity) : String := String.join (entities.map Entity.planLine)

end HomeEntities
