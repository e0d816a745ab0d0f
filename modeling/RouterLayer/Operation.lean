import RouterLayer.Text.Basic

set_option autoImplicit false

namespace RouterLayer

inductive Category
  | query | mutation | subscription
  deriving DecidableEq, Repr

def Category.name : Category → Text
  | .query => "query"
  | .mutation => "mutation"
  | .subscription => "subscription"

def Category.all : List Category := [.query, .mutation, .subscription]

def Category.ofName? (s : Text) : Option Category := all.find? (·.name = s)

theorem Category.mem_all (c : Category) : c ∈ all := by cases c <;> decide

inductive Action
  | findUnique | findUniqueOrThrow | findFirst | findFirstOrThrow | findMany | create
  | createMany | update | updateMany | upsert | delete | deleteMany | groupBy | count
  | aggregate | findRaw | aggregateRaw
  deriving DecidableEq, Repr

namespace Action

def name : Action → Text
  | .findUnique => "findUnique"
  | .findUniqueOrThrow => "findUniqueOrThrow"
  | .findFirst => "findFirst"
  | .findFirstOrThrow => "findFirstOrThrow"
  | .findMany => "findMany"
  | .create => "create"
  | .createMany => "createMany"
  | .update => "update"
  | .updateMany => "updateMany"
  | .upsert => "upsert"
  | .delete => "delete"
  | .deleteMany => "deleteMany"
  | .groupBy => "groupBy"
  | .count => "count"
  | .aggregate => "aggregate"
  | .findRaw => "findRaw"
  | .aggregateRaw => "aggregateRaw"

def all : List Action := [
  .findUnique, .findUniqueOrThrow, .findFirst, .findFirstOrThrow, .findMany, .create,
  .createMany, .update, .updateMany, .upsert, .delete, .deleteMany, .groupBy, .count, .aggregate,
  .findRaw, .aggregateRaw]

def ofName? (s : Text) : Option Action := all.find? (·.name = s)

theorem mem_all (a : Action) : a ∈ all := by cases a <;> decide

theorem ofName?_name (a : Action) : ofName? a.name = some a := by cases a <;> decide

end Action

inductive Operation
  | findUnique | findUniqueOrThrow | findFirst | findFirstOrThrow | findMany | createOne
  | createMany | updateOne | updateMany | upsertOne | deleteOne | deleteMany | aggregate
  | groupBy | count | findRaw | aggregateRaw
  deriving DecidableEq, Repr

namespace Operation

def name : Operation → Text
  | .findUnique => "findUnique"
  | .findUniqueOrThrow => "findUniqueOrThrow"
  | .findFirst => "findFirst"
  | .findFirstOrThrow => "findFirstOrThrow"
  | .findMany => "findMany"
  | .createOne => "createOne"
  | .createMany => "createMany"
  | .updateOne => "updateOne"
  | .updateMany => "updateMany"
  | .upsertOne => "upsertOne"
  | .deleteOne => "deleteOne"
  | .deleteMany => "deleteMany"
  | .aggregate => "aggregate"
  | .groupBy => "groupBy"
  | .count => "count"
  | .findRaw => "findRaw"
  | .aggregateRaw => "aggregateRaw"

def all : List Operation := [
  .findUnique, .findUniqueOrThrow, .findFirst, .findFirstOrThrow, .findMany, .createOne,
  .createMany, .updateOne, .updateMany, .upsertOne, .deleteOne, .deleteMany, .aggregate,
  .groupBy, .count, .findRaw, .aggregateRaw]

def ofName? (s : Text) : Option Operation := all.find? (·.name = s)

/-- The operation on a single record, and the variant that throws, belong to the plain action. -/
def action : Operation → Action
  | .findUnique => .findUnique
  | .findUniqueOrThrow => .findUnique
  | .findFirst => .findFirst
  | .findFirstOrThrow => .findFirst
  | .findMany => .findMany
  | .createOne => .create
  | .createMany => .createMany
  | .updateOne => .update
  | .updateMany => .updateMany
  | .upsertOne => .upsert
  | .deleteOne => .delete
  | .deleteMany => .deleteMany
  | .aggregate => .aggregate
  | .groupBy => .groupBy
  | .count => .count
  | .findRaw => .findRaw
  | .aggregateRaw => .aggregateRaw

def base : Operation → Operation
  | .findUniqueOrThrow => .findUnique
  | .findFirstOrThrow => .findFirst
  | operation => operation

def category : Operation → Category
  | .createOne | .createMany | .updateOne | .updateMany | .upsertOne | .deleteOne
  | .deleteMany => .mutation
  | _ => .query

def clientMethod : Operation → Text
  | .createOne => "create"
  | .updateOne => "update"
  | .upsertOne => "upsert"
  | .deleteOne => "delete"
  | operation => operation.name

/-- The input schema of an operation is named for the model, then for this. -/
def schemaSuffix : Operation → Text
  | .findUnique => "FindUniqueSchema"
  | .findUniqueOrThrow => "FindUniqueSchema"
  | .findFirst => "FindFirstSchema"
  | .findFirstOrThrow => "FindFirstSchema"
  | .findMany => "FindManySchema"
  | .createOne => "CreateOneSchema"
  | .createMany => "CreateManySchema"
  | .updateOne => "UpdateOneSchema"
  | .updateMany => "UpdateManySchema"
  | .upsertOne => "UpsertSchema"
  | .deleteOne => "DeleteOneSchema"
  | .deleteMany => "DeleteManySchema"
  | .aggregate => "AggregateSchema"
  | .groupBy => "GroupBySchema"
  | .count => "CountSchema"
  | .findRaw => "FindRawObjectSchema"
  | .aggregateRaw => "AggregateRawObjectSchema"

/-- The parts of the input that the call passes on; without a list it passes the whole input. -/
def callArguments : Operation → Option (List Text)
  | .findUnique | .findUniqueOrThrow | .deleteOne => some ["where"]
  | .createOne => some ["data"]
  | .updateOne => some ["where", "data"]
  | .upsertOne => some ["where", "create", "update"]
  | .groupBy => some ["where", "orderBy", "by", "having", "take", "skip"]
  | _ => none

theorem mem_all (o : Operation) : o ∈ all := by cases o <;> decide

theorem ofName?_name (o : Operation) : ofName? o.name = some o := by cases o <;> decide

theorem ofName?_eq_some {name : Text} {o : Operation} : ofName? name = some o ↔ o.name = name := by
  constructor
  · intro h
    simpa using List.find?_some h
  · rintro rfl
    exact ofName?_name o

end Operation

def notificationEvents : List Text := ["create", "update", "delete"]

def policyQueries : List Text := ["aggregate", "findFirst", "findMany", "findUnique", "groupBy"]

def policyMutations : List Text := [
  "createOne", "deleteMany", "deleteOne", "updateMany", "updateOne", "upsertOne"]

end RouterLayer
