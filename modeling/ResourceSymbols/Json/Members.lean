import ResourceSymbols.Json.Association

/-!
# Members of an object

A member given again takes the new value and keeps its place.

## Main results

* `get?_put` — looking up after `put`.
* `get?_update` — looking up after a whole list of members was put.
-/

namespace ResourceSymbols.Json.Members

/-- The value of the first member with the given name. -/
def get? (members : Members) (name : String) : Option Value :=
  Association.get? id members name

/-- Gives the member `name` the value `v`. -/
def put (name : String) (v : Value) (members : Members) : Members :=
  Association.put id name v members

/-- Puts the new members, one after the other. -/
def update (members new : Members) : Members := Association.update id members new

theorem mem_of_get? {ms : Members} {name : String} {v : Value}
    (hGet : get? ms name = some v) : (name, v) ∈ ms := by
  obtain ⟨⟨_, _⟩, hMem, rfl, rfl⟩ := Association.exists_mem_of_get? hGet
  exact hMem

theorem get?_put (name k : String) (v : Value) (ms : Members) :
    get? (put name v ms) k = if k = name then some v else get? ms k :=
  Association.get?_put id name v ms k

/-- The last of the new members with a name decides. -/
theorem get?_update (ms new : Members) (k : String) :
    get? (update ms new) k = (get? new.reverse k).or (get? ms k) :=
  Association.get?_update id ms new k

end ResourceSymbols.Json.Members
