import CursorProxy.FieldMaps
import CursorProxy.JsonValues

/-! The schema of an output format is made strict: an object requires all that it declares. -/
namespace CursorProxy.StrictSchemas
open JsonValues FieldMaps

abbrev Members := List (String×JsonValue)

def keys (properties:Members) : JsonValue :=
 .array ((properties.map Prod.fst).map .string)

def declared (members:Members) : Option JsonValue :=
 ((get "properties" members).bind JsonValue.asObject).map keys

def withRequired (names:Option JsonValue) (members:Members) : Members :=
 match names with
 | some names=>insert "required" names members
 | none=>members

mutual

/-- The names are inserted before the values are normalized; being strings, they stay. -/
def normalizeStrictJsonSchema : JsonValue → JsonValue
 | .array items=>.array (normalizeItems items)
 | .object members=>.object (withRequired (declared members) (normalizeMembers members))
 | schema=>schema

def normalizeItems : List JsonValue → List JsonValue
 | []=>[]
 | item::items=>normalizeStrictJsonSchema item::normalizeItems items

def normalizeMembers : Members → Members
 | []=>[]
 | (key,value)::members=>(key,normalizeStrictJsonSchema value)::normalizeMembers members

end

/-- What a value is in JSON Schema: a schema or a list of them, a map of names to schemas, or
data. -/
inductive Reading where
 | schema
 | schemas
 | data
 deriving DecidableEq

def Reading.below : Reading → String → Reading
 | .schema,keyword=>
  if ["properties","patternProperties","$defs","definitions","dependentSchemas",
   "dependencies"].contains keyword then .schemas
  else if ["items","prefixItems","additionalItems","additionalProperties","unevaluatedItems",
   "unevaluatedProperties","propertyNames","contains","contentSchema","allOf","anyOf","oneOf",
   "not","if","then","else"].contains keyword then .schema
  else .data
 | .schemas,_=>.schema
 | .data,_=>.data

def Reading.names (reading:Reading) (members:Members) : Option JsonValue :=
 if reading=.schema then declared members else none

mutual

/-- What is meant: a schema that declares properties requires exactly them, and nothing else
changes, in the names that a map holds as little as in data. -/
def strict : Reading → JsonValue → JsonValue
 | reading,.array items=>.array (strictItems reading items)
 | reading,.object members=>
  .object (withRequired (reading.names members) (strictMembers reading members))
 | _,value=>value

def strictItems (reading:Reading) : List JsonValue → List JsonValue
 | []=>[]
 | item::items=>strict reading item::strictItems reading items

def strictMembers (reading:Reading) : Members → Members
 | []=>[]
 | (key,value)::members=>
  (key,strict (reading.below key) value)::strictMembers reading members

end

/-- What a map of schemas has under the name `required` is no list. -/
inductive Shaped : Reading → JsonValue → Prop
 | leaf (reading:Reading) {value:JsonValue} : value.asArray=none → value.asObject=none →
  Shaped reading value
 | array {reading:Reading} {items:List JsonValue} : (∀ item∈items,Shaped reading item) →
  Shaped reading (.array items)
 | object {reading:Reading} {members:Members} :
  (reading=.schemas → ∀ value∈get "required" members,value.asArray=none) →
  (∀ member∈members,Shaped (reading.below member.1) member.2) →
  Shaped reading (.object members)

/-- A map of schemas has no name `properties` with an object, and data that has one lists the
names of it already. -/
def Reading.Keeps : Reading → Members → Prop
 | .schema,_=>True
 | .schemas,members=>declared members=none
 | .data,members=>∀ names∈declared members,get "required" members=some names

inductive Apart : Reading → JsonValue → Prop
 | leaf (reading:Reading) {value:JsonValue} : value.asArray=none → value.asObject=none →
  Apart reading value
 | array {reading:Reading} {items:List JsonValue} : (∀ item∈items,Apart reading item) →
  Apart reading (.array items)
 | object {reading:Reading} {members:Members} : reading.Keeps members →
  (∀ member∈withRequired (declared members) members,
   Apart (reading.below member.1) member.2) → Apart reading (.object members)

theorem induct {P:JsonValue → Prop} (leaf:∀ value:JsonValue,value.asArray=none → value.asObject=none → P value)
  (array:∀ items:List JsonValue,(∀ item∈items,P item) → P (.array items))
  (object:∀ members:Members,(∀ member∈members,P member.2) → P (.object members)) : ∀ value,P value :=
 @JsonValue.rec P (fun items=>∀ item∈items,P item) (fun members=>∀ member∈members,P member.2)
  (fun member=>P member.2) (leaf _ rfl rfl) (fun _=>leaf _ rfl rfl) (fun _=>leaf _ rfl rfl)
  (fun _=>leaf _ rfl rfl) array object (fun _ h=>nomatch h)
  (fun _ _ hitem hitems=>List.forall_mem_cons.mpr ⟨hitem,hitems⟩) (fun _ h=>nomatch h)
  (fun _ _ hmember hmembers=>List.forall_mem_cons.mpr ⟨hmember,hmembers⟩) (fun _ _ h=>h)

section
variable {members:Members} {reading:Reading} {f:String → JsonValue → JsonValue}

def mapped (f:String → JsonValue → JsonValue) (members:Members) : Members :=
 members.map fun member=>(member.1,f member.1 member.2)

theorem get_mapped (key:String) : get key (mapped f members)=(get key members).map (f key):=by
 induction members with
 | nil=>rfl
 | cons member members ih=>
  change get key ((member.1,f member.1 member.2)::mapped f members)=_
  rw [get_cons,get_cons,ih]
  dsimp only
  split_ifs with h
  · rw [h]
    rfl
  · rfl

theorem keys_mapped (properties:Members) : keys (mapped f properties)=keys properties:=by
 have hnames:(mapped f properties).map Prod.fst=properties.map Prod.fst :=
  List.map_map.trans (List.map_congr_left fun _ _=>rfl)
 rw [keys,hnames,keys]

theorem insert_mapped {key:String} {value:JsonValue} (hvalue:f key value=value) :
  insert key value (mapped f members)=mapped f (insert key value members):=by
 induction members with
 | nil=>
  change [(key,value)]=[(key,f key value)]
  rw [hvalue]
 | cons member members ih=>
  change insert key value ((member.1,f member.1 member.2)::mapped f members)=_
  rw [FieldMaps.insert,FieldMaps.insert,get_mapped,ih]
  simp only [Option.map_eq_none_iff]
  split_ifs
  · change _=(key,f key value)::mapped f members
    rw [hvalue]
  · change _=(key,f key value)::mapped f (member::members)
    rw [hvalue]
    rfl
  · rfl

theorem mem_insert {key:String} {value:JsonValue} {member:String×JsonValue}
  (h:member∈insert key value members) : member=(key,value) ∨ member∈members:=by
 induction members with
 | nil=>exact .inl (List.mem_singleton.mp h)
 | cons other members ih=>
  rw [FieldMaps.insert] at h
  split_ifs at h
  · exact (List.mem_cons.mp h).imp_right (List.mem_cons_of_mem _)
  · exact List.mem_cons.mp h
  · obtain rfl | h:=List.mem_cons.mp h
    · exact .inr List.mem_cons_self
    · exact (ih h).imp_right (List.mem_cons_of_mem _)

theorem mem_of_get {key:String} {value:JsonValue} (h:get key members=some value) : (key,value)∈members:=by
 obtain ⟨member,hfind,rfl⟩:=Option.map_eq_some_iff.mp h
 have hkey:=List.find?_some hfind
 rw [← beq_iff_eq.mp hkey]
 exact List.mem_of_find?_eq_some hfind

theorem normalizeItems_eq (items:List JsonValue) :
  normalizeItems items=items.map normalizeStrictJsonSchema:=by
 induction items with
 | nil=>rfl
 | cons item items ih=>exact congrArg (_::·) ih

theorem normalizeMembers_eq : ∀ members,normalizeMembers members=mapped (fun _=>normalizeStrictJsonSchema) members
 | []=>rfl
 | _::members=>congrArg (_::·) (normalizeMembers_eq members)

theorem strictItems_eq (items:List JsonValue) : strictItems reading items=items.map (strict reading):=by
 induction items with
 | nil=>rfl
 | cons item items ih=>exact congrArg (_::·) ih

theorem strictMembers_eq : ∀ members,strictMembers reading members=mapped (fun key=>strict (reading.below key)) members
 | []=>rfl
 | _::members=>congrArg (_::·) (strictMembers_eq members)

theorem declared_of_get {found:Option JsonValue} (h:get "properties" members=found) :
  declared members=(found.bind JsonValue.asObject).map keys:=by
 rw [declared,h]

theorem declared_names {names:JsonValue} (h:declared members=some names) :
  ∃ texts:List String,names=.array (texts.map .string):=by
 obtain ⟨properties,-,rfl⟩:=Option.map_eq_some_iff.mp h
 exact ⟨properties.map Prod.fst,rfl⟩

theorem normalize_leaf {value:JsonValue} (harray:value.asArray=none)
  (hobject:value.asObject=none) : normalizeStrictJsonSchema value=value:=by
 cases value with
 | array=>cases harray
 | object=>cases hobject
 | _=>rw [normalizeStrictJsonSchema] <;> intro _ h <;> cases h

theorem strict_leaf {value:JsonValue} (harray:value.asArray=none)
  (hobject:value.asObject=none) : strict reading value=value:=by
 cases value with
 | array=>cases harray
 | object=>cases hobject
 | _=>rw [strict] <;> intro _ h <;> cases h

theorem normalize_names (texts:List String) :
  normalizeStrictJsonSchema (.array (texts.map .string))=.array (texts.map .string):=by
 rw [normalizeStrictJsonSchema,normalizeItems_eq,List.map_map]
 exact congrArg _ (List.map_congr_left fun _ _=>normalize_leaf rfl rfl)

theorem strict_names (texts:List String) : strict reading (.array (texts.map .string))=.array (texts.map .string):=by
 rw [strict,strictItems_eq,List.map_map]
 exact congrArg _ (List.map_congr_left fun _ _=>strict_leaf rfl rfl)

theorem withRequired_mapped {names:Option JsonValue} (hnames:∀ value∈names,f "required" value=value) :
  withRequired names (mapped f members)=mapped f (withRequired names members):=by
 cases names with
 | none=>rfl
 | some names=>exact insert_mapped (hnames names rfl)

/-- The order of the source: the names first. -/
theorem normalize_object (members:Members) : normalizeStrictJsonSchema (.object members) =
  .object (mapped (fun _=>normalizeStrictJsonSchema)
   (withRequired (declared members) members)):=by
 rw [normalizeStrictJsonSchema,normalizeMembers_eq,withRequired_mapped]
 intro names hnames
 obtain ⟨texts,rfl⟩:=declared_names hnames
 exact normalize_names texts

theorem strict_object (reading:Reading) (members:Members) : strict reading (.object members) =
  .object (mapped (fun key=>strict (reading.below key))
   (withRequired (reading.names members) members)):=by
 rw [strict,strictMembers_eq,withRequired_mapped]
 intro names hnames
 unfold Reading.names at hnames
 split_ifs at hnames
 · obtain ⟨texts,rfl⟩:=declared_names hnames
   exact strict_names texts
 · cases hnames

theorem Reading.Keeps.same (h:reading.Keeps members) (hreading:reading≠.schema) :
  withRequired (declared members) members=members:=by
 cases hnames:declared members with
 | none=>rfl
 | some names=>
  cases reading with
  | schema=>exact absurd rfl hreading
  | schemas=>cases hnames.symm.trans h
  | data=>exact insert_same (h names hnames)

theorem Reading.Keeps.names (h:reading.Keeps members) :
  withRequired (reading.names members) members=withRequired (declared members) members:=by
 unfold Reading.names
 split_ifs with hreading
 · rfl
 · exact (h.same hreading).symm

theorem Apart.names (reading:Reading) {names:JsonValue} (h:declared members=some names) : Apart reading names:=by
 obtain ⟨texts,rfl⟩:=declared_names h
 refine .array fun item hitem=>?_
 obtain ⟨text,-,rfl⟩:=List.mem_map.mp hitem
 exact .leaf reading rfl rfl

theorem Apart.strict_eq {value:JsonValue} (h:Apart reading value) :
  normalizeStrictJsonSchema value=strict reading value:=by
 induction h with
 | leaf reading harray hobject=>
  rw [normalize_leaf harray hobject,strict_leaf harray hobject]
 | array _ ih=>
  rw [normalizeStrictJsonSchema,strict,normalizeItems_eq,strictItems_eq]
  exact congrArg _ (List.map_congr_left ih)
 | object hkeeps _ ih=>
  rw [normalize_object,strict_object,hkeeps.names]
  exact congrArg _ (List.map_congr_left fun member hmember=>
   congrArg (Prod.mk member.1) (ih member hmember))

/-- The properties of a schema that is apart have the names that they had. -/
theorem declared_normalized (hkeeps:reading.Keeps members)
  (h:∀ member∈withRequired (declared members) members,Apart (reading.below member.1) member.2) :
  declared (mapped (fun _=>normalizeStrictJsonSchema)
   (withRequired (declared members) members))=declared members:=by
 have hget:get "properties" (withRequired (declared members) members) = get "properties" members:=by
  cases declared members with
  | none=>rfl
  | some names=>exact get_insert_ne (by decide) names members
 cases hfound:get "properties" members with
 | none=>
  rw [declared_of_get (get_mapped _),hget,declared_of_get hfound,hfound]
  rfl
 | some value=>
  have hapart:=h _ (mem_of_get (hget.trans hfound))
  rw [declared_of_get (get_mapped _),hget,declared_of_get hfound,hfound,Option.map_some]
  cases hapart with
  | leaf _ harray hobject=>rw [normalize_leaf harray hobject]
  | array _=>
   rw [normalizeStrictJsonSchema]
   rfl
  | @object _ properties hproperties _=>
   have hreading:reading.below "properties"≠.schema:=by
    cases reading with
    | schema=>decide
    | schemas=>cases (declared_of_get hfound).symm.trans hkeeps
    | data=>decide
   rw [normalize_object,hproperties.same hreading]
   exact congrArg some (keys_mapped properties)

theorem Apart.idempotent {value:JsonValue} (h:Apart reading value) :
  normalizeStrictJsonSchema (normalizeStrictJsonSchema value) = normalizeStrictJsonSchema value:=by
 induction h with
 | leaf reading harray hobject=>rw [normalize_leaf harray hobject,normalize_leaf harray hobject]
 | array _ ih=>
  rw [normalizeStrictJsonSchema,normalizeItems_eq,normalizeStrictJsonSchema,normalizeItems_eq,List.map_map]
  exact congrArg _ (List.map_congr_left ih)
 | @object reading members hkeeps hmembers ih=>
  have hplaced:withRequired (declared members) (mapped (fun _=>normalizeStrictJsonSchema)
    (withRequired (declared members) members)) =
    mapped (fun _=>normalizeStrictJsonSchema) (withRequired (declared members) members):=by
   cases hnames:declared members with
   | none=>rfl
   | some names=>
    obtain ⟨texts,rfl⟩:=declared_names hnames
    refine insert_same ?_
    rw [get_mapped,withRequired,get_insert_self,Option.map_some,normalize_names]
  rw [normalize_object,normalize_object,declared_normalized hkeeps hmembers,hplaced]
  unfold mapped
  rw [List.map_map]
  exact congrArg _ (List.map_congr_left fun member hmember=>
   congrArg (Prod.mk member.1) (ih member hmember))

theorem strict_data (value:JsonValue) : strict .data value=value:=by
 induction value using induct with
 | leaf _ harray hobject=>exact strict_leaf harray hobject
 | array items ih=>
  rw [strict,strictItems_eq]
  exact congrArg _ ((List.map_congr_left ih).trans (List.map_id items))
 | object members ih=>
  rw [strict_object]
  exact congrArg _ ((List.map_congr_left fun member hmember=>
   congrArg (Prod.mk member.1) (ih member hmember)).trans (List.map_id members))

theorem keeps_of_eq (hshaped:reading=.schemas → ∀ value∈get "required" members,value.asArray=none)
  (h:normalizeStrictJsonSchema (.object members)=strict reading (.object members)) : reading.Keeps members:=by
 by_cases hreading:reading=.schema
 · rw [hreading]
   trivial
 rw [normalize_object,strict_object,Reading.names,if_neg hreading] at h
 have hsame:∀ names∈declared members,∃ value,get "required" members=some value ∧
   strict (reading.below "required") value=names:=by
  intro names hnames
  obtain ⟨texts,rfl⟩:=declared_names hnames
  have hget:=congrArg (get "required") (JsonValue.object.inj h)
  rw [get_mapped,hnames,withRequired,get_insert_self,Option.map_some,normalize_names,withRequired,get_mapped] at hget
  exact Option.map_eq_some_iff.mp hget.symm
 cases reading with
 | schema=>trivial
 | schemas=>
  refine Option.eq_none_iff_forall_ne_some.mpr fun names hnames=>?_
  obtain ⟨value,hget,hvalue⟩:=hsame names hnames
  obtain ⟨texts,rfl⟩:=declared_names hnames
  have harray:=hshaped rfl value hget
  cases value with
  | array=>cases harray
  | object=>rw [strict_object] at hvalue; cases hvalue
  | _=>rw [strict_leaf rfl rfl] at hvalue; cases hvalue
 | data=>
  intro names hnames
  obtain ⟨value,hget,hvalue⟩:=hsame names hnames
  rw [← hvalue]
  exact hget.trans (congrArg some (strict_data value).symm)

theorem Apart.of_strict_eq (value:JsonValue) : ∀ {reading:Reading},Shaped reading value →
  normalizeStrictJsonSchema value=strict reading value → Apart reading value:=by
 induction value using induct with
 | leaf value harray hobject=>exact fun _ _=>.leaf _ harray hobject
 | array items ih=>
  intro reading hshaped h
  rw [normalizeStrictJsonSchema,strict,normalizeItems_eq,strictItems_eq] at h
  have heach:=List.map_inj_left.mp (JsonValue.array.inj h)
  cases hshaped with
  | leaf _ harray _=>cases harray
  | array hshaped=>
   exact .array fun item hitem=>ih item hitem (hshaped item hitem) (heach item hitem)
 | object members ih=>
  intro reading hshaped h
  cases hshaped with
  | leaf _ _ hobject=>cases hobject
  | object hlists hshaped=>
   have hkeeps:=keeps_of_eq hlists h
   rw [normalize_object,strict_object,hkeeps.names] at h
   have heach:=List.map_inj_left.mp (JsonValue.object.inj h)
   refine .object hkeeps fun member hmember=>?_
   have hold:=fun hmem:member∈members=>
    ih member hmem (hshaped member hmem) (congrArg Prod.snd (heach member hmember))
   cases hnames:declared members with
   | none=>
    rw [hnames] at hmember
    exact hold hmember
   | some names=>
    rw [hnames] at hmember
    obtain rfl | hmem:=mem_insert hmember
    · exact .names _ hnames
    · exact hold hmem

end

/-- One property, by the name of a keyword. -/
def nested : JsonValue := .object [("properties",.object [("properties",.object [])])]

end CursorProxy.StrictSchemas
