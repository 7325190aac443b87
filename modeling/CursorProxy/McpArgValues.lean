import CursorProxy.IntegerDoubles
import CursorProxy.JsonNumbers
import CursorProxy.SseEvents

/-! The value of an argument is a JSON text or a `google.protobuf.Value` in its encoding. -/
namespace CursorProxy.McpArgValues
open CursorProxy.JsonValues JsonNumbers IntegerDoubles XmlElements SseEvents

/-- A `google.protobuf.Value`; the fields of a struct come in the order of their keys. -/
inductive ProstValue where
 | unset
 | nullValue
 | numberValue (number:F64)
 | stringValue (text:String)
 | boolValue (flag:Bool)
 | structValue (fields:List (String×ProstValue))
 | listValue (values:List ProstValue)

def encodeVarint (n:ℕ) : List UInt8 :=
 if n<128 then [UInt8.ofNat n] else UInt8.ofNat (n % 128+128)::encodeVarint (n / 128)

def encodeBytes (tag:UInt8) (bytes:List UInt8) : List UInt8 :=
 tag::(encodeVarint bytes.length++bytes)

def littleEndian (n:ℕ) : List UInt8 := (List.range 8).map fun i=>UInt8.ofNat (n / 256 ^ i)

namespace ProstValue

mutual

/-- A member of a oneof is written whatever its value. -/
def encode : ProstValue → List UInt8
 | unset=>[]
 | nullValue=>[0x08,0x00]
 | numberValue number=>0x11::littleEndian number.bits
 | stringValue text=>encodeBytes 0x1a (bytesOf text.toList)
 | boolValue flag=>[0x20,if flag then 0x01 else 0x00]
 | structValue fields=>encodeBytes 0x2a (encodeFields fields)
 | listValue values=>encodeBytes 0x32 (encodeValues values)

def encodeFields : List (String×ProstValue) → List UInt8
 | []=>[]
 | (key,value)::fields=>
  encodeBytes 0x0a
   ((if key = "" then [] else encodeBytes 0x0a (bytesOf key.toList)) ++
    encodeBytes 0x12 (encode value))++encodeFields fields

def encodeValues : List ProstValue → List UInt8
 | []=>[]
 | value::values=>encodeBytes 0x0a (encode value)++encodeValues values

end

end ProstValue

/-- What the code takes from its libraries: the reader of JSON texts, numbers as floats and floats
as the texts of numbers, the reader of encoded values, and the base64 of bytes. -/
structure McpEnv where
 fromStr : Text → Option JsonValue
 asF64 : String → F64
 fromF64 : F64 → String
 decode : List UInt8 → Option ProstValue
 base64Std : List UInt8 → String

section
variable (env:McpEnv)

mutual

def jsonToProstValue : JsonValue → ProstValue
 | .null=>.nullValue
 | .bool value=>.boolValue value
 | .number text=>.numberValue (env.asF64 text)
 | .string value=>.stringValue value
 | .array items=>.listValue (jsonToProstValues items)
 | .object members=>.structValue (jsonToProstFields members)

def jsonToProstValues : List JsonValue → List ProstValue
 | []=>[]
 | item::items=>jsonToProstValue item::jsonToProstValues items

def jsonToProstFields : List (String×JsonValue) → List (String×ProstValue)
 | []=>[]
 | (key,value)::members=>(key,jsonToProstValue value)::jsonToProstFields members

end

/-- The bounds are `i64::MIN as f64` and `i64::MAX as f64`, and the cast saturates. -/
def jsonNumberFromF64 (number:F64) : Option JsonValue :=
 if number.isFinite=false then none
 else
  match number.whole with
  | some n=>
   if -2 ^ 63 ≤ n ∧ n ≤ 2 ^ 63 then some (.number (min n (2 ^ 63-1)).repr)
   else some (.number (env.fromF64 number))
  | none=>some (.number (env.fromF64 number))

mutual

def prostValueToJson : ProstValue → Option JsonValue
 | .unset=>none
 | .nullValue=>some .null
 | .numberValue number=>jsonNumberFromF64 env number
 | .stringValue text=>some (.string text)
 | .boolValue flag=>some (.bool flag)
 | .structValue fields=>(prostFieldsToJson fields).map .object
 | .listValue values=>(prostValuesToJson values).map .array

def prostValuesToJson : List ProstValue → Option (List JsonValue)
 | []=>some []
 | value::values=>
  (prostValueToJson value).bind fun item=>(prostValuesToJson values).map (item :: ·)

/-- Keys that come in order are inserted one behind the other. -/
def prostFieldsToJson : List (String×ProstValue) → Option (List (String×JsonValue))
 | []=>some []
 | (key,value)::fields=>
  (prostValueToJson value).bind fun item=>(prostFieldsToJson fields).map ((key,item) :: ·)

end

def mayBeValue : List UInt8 → Bool
 | [0x20,flag]=>flag=0x00||flag=0x01
 | first::_=>[0x08,0x11,0x1a,0x2a,0x32].contains first
 | []=>false

def decodeProtobufValueBytes (raw:List UInt8) : Option JsonValue :=
 if mayBeValue raw then (env.decode raw).bind (prostValueToJson env) else none

def fromUtf8 (raw:List UInt8) : Option Text :=
 raw.toByteArray.utf8Decode?.map Array.toList

def decodeMcpArgValue (raw:List UInt8) : JsonValue :=
 if raw=[] then .null
 else
  match (fromUtf8 raw).bind env.fromStr with
  | some value=>value
  | none=>
   match decodeProtobufValueBytes env raw with
   | some value=>value
   | none=>
    match fromUtf8 raw with
    | some text=>.string (String.ofList text)
    | none=>.string ("base64:" ++ env.base64Std raw)

end

def isJsonSpace (char:Char) : Bool :=
 char == ' ' || char == '\n' || char == '\r' || char == '\t'

def opensJson (char:Char) : Bool :=
 char == '\x7b' || char == '[' || char == '"' || char == '-' || char == 't' || char == 'f' ||
  char == 'n' || char.isDigit

def isNumberChar (char:Char) : Bool :=
 char.isDigit||char == '.' || char == 'e' || char == 'E' || char == '+' || char == '-'

/-- The first character that is not white space opens a value, and a text that begins with a digit
is a number with white space behind it. -/
structure ReadsJson (fromStr:Text → Option JsonValue) : Prop where
 opens : ∀ text value,fromStr text=some value →
  ∃ char,(text.dropWhile isJsonSpace).head?=some char ∧ opensJson char=true
 number : ∀ first text value,fromStr (first::text)=some value → first.isDigit=true →
  (text.dropWhile isNumberChar).dropWhile isJsonSpace=[]

section texts
variable {text:Text} {byte:UInt8} {bytes raw:List UInt8}

theorem bytesOf_fromUtf8 (h:fromUtf8 raw=some text) : bytesOf text=raw:=by
 obtain ⟨chars,hchars,rfl⟩:=Option.map_eq_some_iff.mp h
 have hencoded:chars.toList.utf8Encode=raw.toByteArray:=by
  have hget:=ByteArray.utf8Encode_get_utf8Decode? (b := raw.toByteArray) (h := by rw [hchars]; rfl)
  simpa only [hchars,Option.get_some] using hget
 exact List.toByteArray_inj.mp hencoded

theorem text_head (h:bytesOf text=byte::bytes) (hascii:byte.toNat<128) :
  ∃ rest,text=Char.ofNat byte.toNat::rest ∧ bytesOf rest=bytes:=by
 cases text with
 | nil=>exact (nomatch h)
 | cons char rest=>
  have hsplit:String.utf8EncodeChar char++bytesOf rest=byte::bytes:=h
  have hne:String.utf8EncodeChar char≠[]:=by
   intro hnil
   have hlength:=congrArg List.length hnil
   rw [String.length_utf8EncodeChar] at hlength
   exact absurd hlength (Nat.pos_iff_ne_zero.mp char.utf8Size_pos)
  obtain ⟨first,more,hfirst⟩:=List.exists_cons_of_ne_nil hne
  rw [hfirst,List.cons_append] at hsplit
  obtain ⟨rfl,hmore⟩:=List.cons.inj hsplit
  have hcode:=ascii_of_mem hascii (hfirst ▸ List.mem_cons_self)
  have hone:char.utf8Size=1:=by
   refine Char.utf8Size_eq_one_iff.mpr (UInt32.le_iff_toNat_le.mpr ?_)
   change char.toNat ≤ 127
   omega
  have hlength:=String.length_utf8EncodeChar char
  rw [hfirst,hone,List.length_cons] at hlength
  obtain rfl:=List.length_eq_zero_iff.mp (by omega:more.length=0)
  exact ⟨rest,by rw [← hcode,Char.ofNat_toNat],hmore⟩

def spaceCodes : List ℕ := [9,10,13,32]

theorem isJsonSpace_bytes {char:Char} (h:isJsonSpace char=true) :
  ∀ byte∈String.utf8EncodeChar char,byte.toNat∈spaceCodes:=by
 unfold isJsonSpace at h
 simp only [Bool.or_eq_true,beq_iff_eq] at h
 rcases h with ((rfl | rfl) | rfl) | rfl
 all_goals decide +kernel

theorem isNumberChar_code {char:Char} (h:isNumberChar char=true) : char.toNat≠10:=by
 intro hcode
 have hchar:char = '\n' := Char.toNat_inj.mp hcode
 rw [hchar] at h
 exact absurd h (by decide)

theorem bytesOf_spaces (h:text.dropWhile isJsonSpace=[]) : ∀ byte∈bytesOf text,byte.toNat∈spaceCodes:=by
 intro byte hmem
 obtain ⟨char,hchar,hbyte⟩:=List.mem_flatMap.mp hmem
 exact isJsonSpace_bytes (List.dropWhile_eq_nil_iff.mp h char hchar) byte hbyte

theorem bytesOf_number (h:(text.dropWhile isNumberChar).dropWhile isJsonSpace=[])
  {before after:List UInt8} (hsplit:bytesOf text=before++10::after) : ∀ byte∈after,byte.toNat∈spaceCodes:=by
 have hnumber:(10:UInt8) ∉ bytesOf (text.takeWhile isNumberChar):=by
  intro hmem
  obtain ⟨char,hchar,hbyte⟩:=List.mem_flatMap.mp hmem
  exact isNumberChar_code (List.mem_takeWhile_imp hchar) (ascii_of_mem (by decide) hbyte)
 have hspaces:=bytesOf_spaces h
 rw [← List.takeWhile_append_dropWhile (p := isNumberChar) (l := text),bytesOf_append] at hsplit
 rcases List.append_eq_append_iff.mp hsplit with ⟨more,-,hrest⟩ | ⟨more,hfront,hrest⟩
 · intro byte hmem
   refine hspaces byte ?_
   rw [hrest]
   exact List.mem_append_right _ (List.mem_cons_of_mem _ hmem)
 · cases more with
   | nil=>
    intro byte hmem
    refine hspaces byte ?_
    rw [← List.nil_append (bytesOf _),← hrest]
    exact List.mem_cons_of_mem _ hmem
   | cons first more=>
    obtain ⟨rfl,-⟩:=List.cons.inj (hrest.trans (List.cons_append ..))
    refine absurd ?_ hnumber
    rw [hfront]
    exact List.mem_append_right _ List.mem_cons_self

end texts

section encodings
variable {fromStr:Text → Option JsonValue} {byte:UInt8} {bytes raw:List UInt8}

def Unread (fromStr:Text → Option JsonValue) (raw:List UInt8) : Prop :=
 (fromUtf8 raw).bind fromStr=none

theorem unread_of (h:∀ text value,bytesOf text=raw → fromStr text≠some value) : Unread fromStr raw:=by
 unfold Unread
 cases htext:fromUtf8 raw with
 | none=>rfl
 | some text=>
  rw [Option.bind_some]
  exact Option.eq_none_iff_forall_ne_some.mpr fun value=>h text value (bytesOf_fromUtf8 htext)

theorem unread_head (hreads:ReadsJson fromStr) (hascii:byte.toNat<128)
  (hspace:isJsonSpace (Char.ofNat byte.toNat)=false)
  (hopens:opensJson (Char.ofNat byte.toNat)=false) : Unread fromStr (byte::bytes):=by
 refine unread_of fun text value hbytes hread=>?_
 obtain ⟨rest,rfl,-⟩:=text_head hbytes hascii
 obtain ⟨char,hhead,hchar⟩:=hreads.opens _ value hread
 rw [List.dropWhile_cons_of_neg (Bool.eq_false_iff.mp hspace),List.head?_cons] at hhead
 rw [← Option.some.inj hhead,hopens] at hchar
 exact (nomatch hchar)

theorem unread_bool (hreads:ReadsJson fromStr) (flag:Bool) : Unread fromStr (ProstValue.boolValue flag).encode:=by
 refine unread_of fun text value hbytes hread=>?_
 rw [ProstValue.encode] at hbytes
 obtain ⟨rest,rfl,hrest⟩:=text_head hbytes (by decide)
 obtain ⟨more,rfl,-⟩:=text_head hrest (by cases flag <;> decide)
 obtain ⟨char,hhead,hchar⟩:=hreads.opens _ value hread
 cases flag with
 | false=>
  obtain rfl:=Option.some.inj (hhead.symm.trans rfl : some char=some (Char.ofNat 0))
  exact absurd hchar (by decide)
 | true=>
  obtain rfl:=Option.some.inj (hhead.symm.trans rfl : some char=some (Char.ofNat 1))
  exact absurd hchar (by decide)

theorem varint_space {n:ℕ} (h:∀ byte∈encodeVarint n,byte.toNat∈spaceCodes) : n∈spaceCodes:=by
 rw [encodeVarint] at h
 split_ifs at h with hsmall
 · have hbyte:=h _ List.mem_cons_self
   rwa [UInt8.toNat_ofNat',Nat.mod_eq_of_lt (by omega)] at hbyte
 · have hbyte:=h _ List.mem_cons_self
   rw [UInt8.toNat_ofNat',Nat.mod_eq_of_lt (by omega)] at hbyte
   have hlarge:128 ≤ n % 128+128:=Nat.le_add_left _ _
   revert hbyte hlarge
   generalize n % 128+128=code
   intro hbyte hlarge
   unfold spaceCodes at hbyte
   simp only [List.mem_cons,List.not_mem_nil,or_false] at hbyte
   omega

theorem encode_opens {value:ProstValue} (h:value ≠ .unset) :
  value.encode.length=2 ∨ ∃ first rest,value.encode=first::rest ∧ first.toNat ∉ spaceCodes:=by
 cases value with
 | unset=>exact absurd rfl h
 | nullValue=>exact .inl (by rw [ProstValue.encode]; rfl)
 | numberValue number=>exact .inr ⟨0x11,_,by rw [ProstValue.encode],by decide⟩
 | stringValue text=>exact .inr ⟨0x1a,_,by rw [ProstValue.encode]; rfl,by decide⟩
 | boolValue flag=>exact .inl (by rw [ProstValue.encode]; rfl)
 | structValue fields=>exact .inr ⟨0x2a,_,by rw [ProstValue.encode]; rfl,by decide⟩
 | listValue values=>exact .inr ⟨0x32,_,by rw [ProstValue.encode]; rfl,by decide⟩

theorem unread_list (hreads:ReadsJson fromStr) {values:List ProstValue}
  (hset:∀ value∈values,value ≠ .unset) : Unread fromStr (ProstValue.listValue values).encode:=by
 refine unread_of fun text json hbytes hread=>?_
 rw [ProstValue.encode] at hbytes
 obtain ⟨rest,rfl,hrest⟩:=text_head hbytes (by decide)
 have hnumber:=hreads.number _ rest json hread (by decide)
 cases values with
 | nil=>
  rw [ProstValue.encodeValues,encodeVarint,if_pos (by decide)] at hrest
  obtain ⟨more,rfl,-⟩:=text_head hrest (by decide)
  exact (nomatch hnumber)
 | cons value values=>
  rw [ProstValue.encodeValues,encodeBytes,List.cons_append,List.append_assoc] at hrest
  have hspaces:=bytesOf_number hnumber hrest
  have hlength:value.encode.length∈spaceCodes :=
   varint_space fun byte hmem=>hspaces byte (List.mem_append_left _ hmem)
  rcases encode_opens (hset value List.mem_cons_self) with htwo | ⟨first,more,hfirst,hink⟩
  · rw [htwo] at hlength
    exact absurd hlength (by decide)
  · refine hink (hspaces first (List.mem_append_right _ (List.mem_append_left _ ?_)))
    rw [hfirst]
    exact List.mem_cons_self

variable (env:McpEnv)

theorem jsonToProstValue_ne (value:JsonValue) : jsonToProstValue env value ≠ .unset:=by
 cases value <;> (rw [jsonToProstValue]; exact fun h=>(nomatch h))

theorem jsonToProstValues_ne (items:List JsonValue) : ∀ value∈jsonToProstValues env items,value ≠ .unset:=by
 induction items with
 | nil=>exact fun _ h=>(nomatch h)
 | cons item items ih=>
  intro value hmem
  rw [jsonToProstValues] at hmem
  rcases List.mem_cons.mp hmem with rfl | hmem
  · exact jsonToProstValue_ne env item
  · exact ih value hmem

theorem unread_encode (hreads:ReadsJson env.fromStr) (value:JsonValue) :
  Unread env.fromStr (jsonToProstValue env value).encode:=by
 cases value with
 | null=>
  rw [jsonToProstValue,ProstValue.encode]
  exact unread_head hreads (by decide) (by decide) (by decide)
 | bool flag=>
  rw [jsonToProstValue]
  exact unread_bool hreads flag
 | number text=>
  rw [jsonToProstValue,ProstValue.encode]
  exact unread_head hreads (by decide) (by decide) (by decide)
 | string text=>
  rw [jsonToProstValue,ProstValue.encode]
  exact unread_head hreads (by decide) (by decide) (by decide)
 | array items=>
  rw [jsonToProstValue]
  exact unread_list hreads (jsonToProstValues_ne env items)
 | object members=>
  rw [jsonToProstValue,ProstValue.encode]
  exact unread_head hreads (by decide) (by decide) (by decide)

theorem mayBeValue_head {first:UInt8} (rest:List UInt8)
  (h:[0x08,0x11,0x1a,0x2a,0x32].contains first=true) : mayBeValue (first::rest)=true:=by
 unfold mayBeValue
 split
 · rename_i hbytes
   obtain ⟨rfl,-⟩:=List.cons.inj hbytes
   exact absurd h (by decide)
 · rename_i hbytes
   obtain ⟨rfl,-⟩:=List.cons.inj hbytes
   exact h
 · rename_i hbytes
   exact (nomatch hbytes)

theorem mayBeValue_encode {value:ProstValue} (h:value ≠ .unset) : mayBeValue value.encode=true:=by
 cases value with
 | unset=>exact absurd rfl h
 | boolValue flag=>
  rw [ProstValue.encode]
  cases flag <;> rfl
 | nullValue | numberValue _ | stringValue _ | structValue _ | listValue _=>
  rw [ProstValue.encode]
  exact mayBeValue_head _ (by decide)

end encodings

mutual

/-- Every number is an integer of at most 2^53 in size. -/
def WholeNumbers : JsonValue → Prop
 | .number text=>∃ n:ℤ,n.natAbs ≤ 2 ^ 53 ∧ text=n.repr
 | .array items=>WholeItems items
 | .object members=>WholeMembers members
 | .null | .bool _ | .string _=>True

def WholeItems : List JsonValue → Prop
 | []=>True
 | item::items=>WholeNumbers item ∧ WholeItems items

def WholeMembers : List (String×JsonValue) → Prop
 | []=>True
 | (_,value)::members=>WholeNumbers value ∧ WholeMembers members

end

/-- `Number::as_f64` is exact where integers are held exactly. -/
def ExactIntegers (asF64:String → F64) : Prop :=
 ∀ n:ℤ,n.natAbs ≤ 2 ^ 53 → asF64 n.repr=F64.ofInt n

/-- What was written is read back, as it is up to the recursion limit of the decoder. -/
def ReadsBack (decode:List UInt8 → Option ProstValue) (value:ProstValue) : Prop :=
 decode value.encode=some value

section roundTrip
variable {env:McpEnv}

theorem jsonNumberFromF64_ofInt {n:ℤ} (h:n.natAbs ≤ 2 ^ 53) :
  jsonNumberFromF64 env (F64.ofInt n)=some (.number n.repr):=by
 have hwhole:=F64.ofInt_whole h
 have hfinite:(F64.ofInt n).isFinite=true:=by
  by_contra hinfinite
  unfold F64.whole at hwhole
  rw [if_neg hinfinite] at hwhole
  exact (nomatch hwhole)
 unfold jsonNumberFromF64
 rw [hfinite,hwhole,if_neg (by decide)]
 dsimp only
 rw [if_pos (by omega),min_eq_left (by omega)]

mutual

theorem prostValueToJson_jsonToProstValue (hexact:ExactIntegers env.asF64) :
  ∀ value,WholeNumbers value → prostValueToJson env (jsonToProstValue env value)=some value
 | .null,_=>by rw [jsonToProstValue,prostValueToJson]
 | .bool _,_=>by rw [jsonToProstValue,prostValueToJson]
 | .string _,_=>by rw [jsonToProstValue,prostValueToJson]
 | .number text,h=>by
  rw [WholeNumbers] at h
  obtain ⟨n,hsize,rfl⟩:=h
  rw [jsonToProstValue,prostValueToJson,hexact n hsize]
  exact jsonNumberFromF64_ofInt hsize
 | .array items,h=>by
  rw [WholeNumbers] at h
  rw [jsonToProstValue,prostValueToJson,prostValuesToJson_jsonToProstValues hexact items h]
  rfl
 | .object members,h=>by
  rw [WholeNumbers] at h
  rw [jsonToProstValue,prostValueToJson,prostFieldsToJson_jsonToProstFields hexact members h]
  rfl

theorem prostValuesToJson_jsonToProstValues (hexact:ExactIntegers env.asF64) :
  ∀ items,WholeItems items → prostValuesToJson env (jsonToProstValues env items)=some items
 | [],_=>by rw [jsonToProstValues,prostValuesToJson]
 | item::items,h=>by
  rw [WholeItems] at h
  rw [jsonToProstValues,prostValuesToJson,prostValueToJson_jsonToProstValue hexact item h.1,
   prostValuesToJson_jsonToProstValues hexact items h.2]
  rfl

theorem prostFieldsToJson_jsonToProstFields (hexact:ExactIntegers env.asF64) :
  ∀ members,WholeMembers members → prostFieldsToJson env (jsonToProstFields env members)=some members
 | [],_=>by rw [jsonToProstFields,prostFieldsToJson]
 | (key,value)::members,h=>by
  rw [WholeMembers] at h
  rw [jsonToProstFields,prostFieldsToJson,prostValueToJson_jsonToProstValue hexact value h.1,
   prostFieldsToJson_jsonToProstFields hexact members h.2]
  rfl

end

end roundTrip

/-- The encoding of a JSON value is no JSON text and passes the test of its first byte, so that the
value comes back. -/
theorem mcp_args_roundTrip (env:McpEnv) (hreads:ReadsJson env.fromStr)
    (hexact:ExactIntegers env.asF64) (value:JsonValue) (hwhole:WholeNumbers value)
    (hdecode:ReadsBack env.decode (jsonToProstValue env value)) :
    decodeMcpArgValue env (jsonToProstValue env value).encode=value ∧
      (fromUtf8 (jsonToProstValue env value).encode).bind env.fromStr=none ∧
      decodeProtobufValueBytes env (jsonToProstValue env value).encode=some value:=by
  have hunread:=unread_encode env hreads value
  have hmay:=mayBeValue_encode (jsonToProstValue_ne env value)
  have hdecoded:decodeProtobufValueBytes env (jsonToProstValue env value).encode = some value:=by
    unfold decodeProtobufValueBytes
    unfold ReadsBack at hdecode
    rw [hmay,if_pos rfl,hdecode]
    exact prostValueToJson_jsonToProstValue hexact value hwhole
  refine ⟨?_,hunread,hdecoded⟩
  have hne:(jsonToProstValue env value).encode≠[]:=by
    intro hnil
    rw [hnil] at hmay
    exact (nomatch hmay)
  unfold decodeMcpArgValue
  rw [if_neg hne,hunread,hdecoded]

def sampleValue : JsonValue :=
 .object [("ids",.array [.number "-3",.bool true,.null]),("name",.string "a")]

def sampleAsF64 (text:String) : F64 :=
 match text.toList with
 | '-' :: digits=>F64.ofInt (-(Nat.ofDigitChars 10 digits 0 : ℕ))
 | digits=>F64.ofInt (Nat.ofDigitChars 10 digits 0 : ℕ)

def sampleProst : ProstValue :=
 .structValue [("ids",.listValue [.numberValue (F64.ofInt (-3)),.boolValue true,.nullValue]),("name",.stringValue "a")]

/-- A reader of no text, and a decoder of one value. -/
def sampleEnv : McpEnv where
 fromStr _ := none
 asF64 := sampleAsF64
 fromF64 _ := ""
 decode raw := if raw=sampleProst.encode then some sampleProst else none
 base64Std _ := ""

theorem sampleAsF64_exact : ExactIntegers sampleAsF64:=by
 intro n _
 unfold sampleAsF64
 cases n with
 | ofNat size=>
  have htext:(Int.ofNat size).repr.toList=Nat.toDigits 10 size:=toList_natRepr size
  rw [htext]
  split
  · rename_i digits hdigits
    exact absurd hdigits toDigits_unsigned
  · rw [Nat.ofDigitChars_ten_toDigits]
    rfl
 | negSucc size=>
  rw [toList_negRepr]
  change F64.ofInt (-(Nat.ofDigitChars 10 (Nat.toDigits 10 (size+1)) 0 : ℕ))=_
  rw [Nat.ofDigitChars_ten_toDigits]
  rfl

theorem mcp_args_roundTrip_sample :
    decodeMcpArgValue sampleEnv (jsonToProstValue sampleEnv sampleValue).encode=sampleValue:=by
  have hprost:jsonToProstValue sampleEnv sampleValue=sampleProst:=by
    have htext:(-3 : ℤ).repr = "-3" := by decide
    have hnumber:sampleEnv.asF64 "-3" = F64.ofInt (-3):=by
      rw [← htext]
      exact sampleAsF64_exact (-3) (by decide)
    unfold sampleValue sampleProst
    simp only [jsonToProstValue,jsonToProstValues,jsonToProstFields,hnumber]
  have hreads:ReadsJson sampleEnv.fromStr :=
    ⟨fun _ _ h=>(nomatch h),fun _ _ _ h=>(nomatch h)⟩
  have hwhole:WholeNumbers sampleValue:=by
    unfold sampleValue
    simp only [WholeNumbers,WholeItems,WholeMembers,and_true]
    exact ⟨-3,by decide,rfl⟩
  refine (mcp_args_roundTrip sampleEnv hreads sampleAsF64_exact sampleValue hwhole ?_).1
  rw [hprost]
  exact if_pos rfl

end CursorProxy.McpArgValues
