/-!
# Lists of bindings in key order

A finite map as a list of bindings whose keys ascend. Binding a key again replaces its value, so
of several bindings of one key in a row the last one stays.
-/

namespace SchemaDelta

namespace KeyedList

variable {α : Type}

/-- Binds `key` to `value`, in the place that keeps the keys ascending. -/
def insert (key : String) (value : α) : List (String × α) → List (String × α)
  | [] => [(key, value)]
  | (k, v) :: rest =>
    if key < k then (key, value) :: (k, v) :: rest
    else if key = k then (key, value) :: rest
    else (k, v) :: insert key value rest

/-- The map that results from making the given bindings one after the other. -/
def ofList (bindings : List (String × α)) : List (String × α) :=
  bindings.foldl (fun map binding => insert binding.1 binding.2 map) []

/-- The value bound to `key`. -/
def get? (map : List (String × α)) (key : String) : Option α := map.lookup key

end KeyedList

end SchemaDelta
