import CursorProxy.OldestFirst
import CursorProxy.XmlElements

/-! The usage cache is one JSON document, read, changed and written whole under the lock of its
file. The meters of a row and the length of the document are parameters. -/
namespace CursorProxy.UsageCache
open OldestFirst XmlElements

def accountUsageCacheMaxBytes : ℕ := 2*1024*1024
def accountUsageCacheMaxAccounts : ℕ := 64
def accountUsageCacheMaxStringChars : ℕ := 512
def accountUsageCacheMaxIdChars : ℕ := 512

variable {μ:Type*}

structure AccountUsageSnapshot (μ:Type*) where
 name : Option Text
 email : Option Text
 meters : μ
 /-- Milliseconds from the epoch. -/
 fetchedAt : ℤ

structure CachedAccountUsageSnapshot (μ:Type*) where
 accountLabel : Option Text
 accountActive : Option Bool
 name : Option Text
 email : Option Text
 meters : μ
 fetchedAtMs : Option ℕ
deriving DecidableEq

abbrev Accounts (μ:Type*) := AList fun _:Text=>CachedAccountUsageSnapshot μ

structure CacheEnv (μ:Type*) where
 /-- `serde_json::to_vec_pretty` of the document with these rows. -/
 documentBytes : Accounts μ → ℕ
 /-- Numbers that are not finite go, texts and events are cut. -/
 bounded : μ → μ

/-- The rows are those that can be read as snapshots, if the document has this version. -/
structure CacheFile (μ:Type*) where
 len : ℕ
 accounts : Option (Accounts μ)

/-- The step of a call that fails. -/
inductive Fault where
 | lock
 | read
 | write
 /-- The directory is synced behind the rename. -/
 | sync
 | unlock
deriving DecidableEq

inductive CacheError where
 | invalidId
 | exceedsLimit
 | io
deriving DecidableEq

/-- What a call meets outside: the order in which its hash map is read, and what fails. -/
structure Outside (μ:Type*) where
 reading : ReadOrder Text (CachedAccountUsageSnapshot μ)
 fault : Option Fault

inductive UsageCall (μ:Type*) where
 | persist (accountId:Text) (snapshot:AccountUsageSnapshot μ) (accountLabel:Option Text) (accountActive:Option Bool)
 | remove (accountId:Text)

abbrev Answer (μ:Type*) := Option (CacheFile μ)×Except CacheError Unit

def boundedCacheString (value:Option Text) : Option Text :=
 value.map fun value=>(trim value).take accountUsageCacheMaxStringChars

def validCacheAccountId (accountId:Text) : Bool :=
 !(trim accountId).isEmpty&&accountId.length ≤ accountUsageCacheMaxIdChars

/-- A time before the epoch counts as the epoch. -/
def AccountUsageSnapshot.ms (snapshot:AccountUsageSnapshot μ) : ℕ := min snapshot.fetchedAt.toNat (2 ^ 64-1)

def fetched (row:CachedAccountUsageSnapshot μ) : ℕ := row.fetchedAtMs.getD 0

def readable (row:CachedAccountUsageSnapshot μ) : Bool := row.fetchedAtMs.any (0 < ·)

section
variable (env:CacheEnv μ)

def fromSnapshotWithMetadata (snapshot:AccountUsageSnapshot μ) (accountLabel:Option Text)
  (accountActive:Option Bool) : CachedAccountUsageSnapshot μ where
 accountLabel := boundedCacheString accountLabel
 accountActive := accountActive
 name := boundedCacheString snapshot.name
 email := boundedCacheString snapshot.email
 meters := env.bounded snapshot.meters
 fetchedAtMs := some snapshot.ms

/-- What the new row does not say is taken over from the previous one. -/
def keepMetadata (next:CachedAccountUsageSnapshot μ) :
  Option (CachedAccountUsageSnapshot μ) → CachedAccountUsageSnapshot μ
 | none=>next
 | some previous=>
  { next with
    accountLabel := next.accountLabel.or previous.accountLabel
    accountActive := next.accountActive.or previous.accountActive
    name := next.name.or previous.name
    email := next.email.or previous.email }

def readCachedUsageEntries (file:Option (CacheFile μ)) : Accounts μ :=
 match file with
 | none=>∅
 | some file=>
  if accountUsageCacheMaxBytes<file.len then ∅
  else match file.accounts with
  | none=>∅
  | some accounts=>
   (((accounts.entries.filter fun entry=>validCacheAccountId entry.1&&readable entry.2).mergeSort
    fun first second=>fetched second.2 ≤ fetched first.2).take accountUsageCacheMaxAccounts).toAList

def tooMany (accounts:Accounts μ) : Bool := accountUsageCacheMaxAccounts<accounts.keys.length

def tooLarge (accounts:Accounts μ) : Bool := accountUsageCacheMaxBytes<env.documentBytes accounts

def pickExcess (reading:ReadOrder Text (CachedAccountUsageSnapshot μ)) (currentAccountId:Text)
  (accounts:Accounts μ) : Option Text :=
 (oldest reading fetched currentAccountId accounts).or ((reading.order accounts.entries).head?.map Sigma.fst)

/-- Rows beyond the number and then beyond the length go, the one being written last of all. -/
def evicted (outside:Outside μ) (currentAccountId:Text) (accounts:Accounts μ) : Accounts μ :=
 let accounts:=removeWhile tooMany (pickExcess outside.reading currentAccountId) accounts.keys.length accounts
 removeWhile (tooLarge env) (oldest outside.reading fetched currentAccountId) accounts.keys.length accounts

def writeAccountUsageCache (outside:Outside μ) (file:Option (CacheFile μ)) (currentAccountId:Text)
  (accounts:Accounts μ) : Answer μ :=
 let accounts:=evicted env outside currentAccountId accounts
 if tooLarge env accounts then (file,.error .exceedsLimit)
 else if outside.fault=some .write then (file,.error .io)
 else (some ⟨env.documentBytes accounts,some accounts⟩,
  if outside.fault=some .sync then .error .io else .ok ())

def withAccountUsageCacheLock (outside:Outside μ) (file:Option (CacheFile μ)) (operation:Answer μ) : Answer μ :=
 if outside.fault=some .lock then (file,.error .io)
 else match operation with
 | (file,.ok ())=>(file,if outside.fault=some .unlock then .error .io else .ok ())
 | (file,.error error)=>(file,.error error)

/-- An older snapshot than the one that is stored changes nothing. -/
def published (accounts:Accounts μ) (accountId:Text) (snapshot:AccountUsageSnapshot μ)
  (accountLabel:Option Text) (accountActive:Option Bool) : Accounts μ :=
 let previous:=accounts.lookup accountId
 let next:=keepMetadata (fromSnapshotWithMetadata env snapshot accountLabel accountActive) previous
 if previous.all fun previous=>fetched previous ≤ fetched next then accounts.insert accountId next else accounts

def persistAccountUsageToWithMetadata (outside:Outside μ) (file:Option (CacheFile μ)) (accountId:Text)
  (snapshot:AccountUsageSnapshot μ) (accountLabel:Option Text) (accountActive:Option Bool) : Answer μ :=
 if !validCacheAccountId accountId then (file,.error .invalidId)
 else withAccountUsageCacheLock outside file <|
  if outside.fault=some .read then (file,.error .io)
  else writeAccountUsageCache env outside file accountId
   (published env (readCachedUsageEntries file) accountId snapshot accountLabel accountActive)

def removeAccountUsageFrom (outside:Outside μ) (file:Option (CacheFile μ)) (accountId:Text) : Answer μ :=
 if !validCacheAccountId accountId then (file,.error .invalidId)
 else withAccountUsageCacheLock outside file <|
  if outside.fault=some .read then (file,.error .io)
  else
   let accounts:=readCachedUsageEntries file
   if (accounts.lookup accountId).isSome then
    writeAccountUsageCache env outside file accountId (accounts.erase accountId)
   else (file,.ok ())

def answer (file:Option (CacheFile μ)) (call:Outside μ×UsageCall μ) : Answer μ :=
 match call.2 with
 | .persist accountId snapshot accountLabel accountActive=>
  persistAccountUsageToWithMetadata env call.1 file accountId snapshot accountLabel accountActive
 | .remove accountId=>removeAccountUsageFrom env call.1 file accountId

def run (file:Option (CacheFile μ)) (calls:List (Outside μ×UsageCall μ)) : Option (CacheFile μ) :=
 calls.foldl (fun file call=>(answer env file call).1) file

end

def UsageCall.accountId : UsageCall μ → Text
 | .persist accountId _ _ _=>accountId
 | .remove accountId=>accountId

variable {env:CacheEnv μ} {file:Option (CacheFile μ)} {accounts:Accounts μ} {accountId:Text}
 {row later:CachedAccountUsageSnapshot μ} {call:Outside μ×UsageCall μ} {calls:List (Outside μ×UsageCall μ)}

theorem pickExcess_mem {reading:ReadOrder Text (CachedAccountUsageSnapshot μ)} {currentAccountId:Text}
  (accounts:Accounts μ) (key:Text) (h:pickExcess reading currentAccountId accounts=some key) : key∈accounts:=by
 unfold pickExcess at h
 cases holdest:oldest reading fetched currentAccountId accounts with
 | some other=>
  rw [holdest] at h
  obtain rfl:=Option.some.inj h
  obtain ⟨-,value,hvalue,-⟩:=oldest_some holdest
  exact mem_iff.mpr ⟨value,hvalue⟩
 | none=>
  rw [holdest] at h
  obtain ⟨entry,hentry,rfl⟩:=Option.map_eq_some_iff.mp h
  have hmem:=(reading.perm _).mem_iff.mp (List.mem_of_mem_head? hentry)
  exact AList.mem_keys.mpr (List.mem_map_of_mem hmem)

theorem evicted_thinned (env:CacheEnv μ) (outside:Outside μ) (currentAccountId:Text) (accounts:Accounts μ) :
  Thinned fetched currentAccountId accounts (evicted env outside currentAccountId accounts) ∧
   (evicted env outside currentAccountId accounts).keys.length ≤ accountUsageCacheMaxAccounts:=by
 have hoverfull:∀ entries:Accounts μ,tooMany entries=true →
   oldest outside.reading fetched currentAccountId entries≠none:=by
  intro entries hmany hnone
  have hlength:=oldest_none_length hnone
  have hmore:accountUsageCacheMaxAccounts<entries.keys.length:=of_decide_eq_true hmany
  unfold accountUsageCacheMaxAccounts at hmore
  omega
 have hfirst:Thinned fetched currentAccountId accounts
   (removeWhile tooMany (pickExcess outside.reading currentAccountId) accounts.keys.length accounts):=by
  refine removeWhile_thinned outside.reading (fun entries key hmany hkey=>?_) _ _
  unfold pickExcess at hkey
  cases holdest:oldest outside.reading fetched currentAccountId entries with
  | none=>exact absurd holdest (hoverfull entries hmany)
  | some other=>rwa [holdest] at hkey
 have hsecond:∀ turns entries,Thinned fetched currentAccountId entries
   (removeWhile (tooLarge env) (oldest outside.reading fetched currentAccountId) turns entries) :=
  removeWhile_thinned outside.reading fun _ _ _ hkey=>hkey
 refine ⟨hfirst.trans (hsecond _ _),(hsecond _ _).length_le.trans (not_lt.mp fun hmore=>?_)⟩
 have hmany:tooMany (removeWhile tooMany (pickExcess outside.reading currentAccountId) accounts.keys.length accounts)=true :=
  decide_eq_true hmore
 have hnone:=removeWhile_stops pickExcess_mem accounts.keys.length accounts le_rfl hmany
 unfold pickExcess at hnone
 exact hoverfull _ hmany (Option.or_eq_none_iff.mp hnone).1

/-- The document that a write leaves. -/
structure Committed (env:CacheEnv μ) (currentAccountId:Text) (accounts kept:Accounts μ)
  (file:Option (CacheFile μ)) : Prop where
 thinned : Thinned fetched currentAccountId accounts kept
 file : file=some ⟨env.documentBytes kept,some kept⟩
 bytes : env.documentBytes kept ≤ accountUsageCacheMaxBytes
 number : kept.keys.length ≤ accountUsageCacheMaxAccounts

theorem write_cases (env:CacheEnv μ) (outside:Outside μ) (file:Option (CacheFile μ)) (currentAccountId:Text)
  (accounts:Accounts μ) : let written:=writeAccountUsageCache env outside file currentAccountId accounts
   (written.1=file ∧ ∃ error,written.2=.error error) ∨
    (∃ kept,Committed env currentAccountId accounts kept written.1) ∧ (written.2=.ok () ∨ outside.fault=some .sync):=by
 obtain ⟨hthinned,hnumber⟩:=evicted_thinned env outside currentAccountId accounts
 unfold writeAccountUsageCache
 dsimp only
 by_cases hlarge:tooLarge env (evicted env outside currentAccountId accounts)=true
 · rw [if_pos hlarge]
   exact .inl ⟨rfl,_,rfl⟩
 · rw [if_neg hlarge]
   by_cases hwrite:outside.fault=some .write
   · rw [if_pos hwrite]
     exact .inl ⟨rfl,_,rfl⟩
   · rw [if_neg hwrite]
     refine .inr ⟨⟨_,hthinned,rfl,not_lt.mp fun hmore=>hlarge (decide_eq_true hmore),hnumber⟩,?_⟩
     by_cases hsync:outside.fault=some .sync
     · exact .inr hsync
     · exact .inl (if_neg hsync)

/-- The rows that a call writes, none when it leaves the file alone. -/
def drafted (env:CacheEnv μ) (file:Option (CacheFile μ)) : UsageCall μ → Accounts μ
 | .persist accountId snapshot accountLabel accountActive=>
  published env (readCachedUsageEntries file) accountId snapshot accountLabel accountActive
 | .remove accountId=>(readCachedUsageEntries file).erase accountId

def Unheard (call:Outside μ×UsageCall μ) : Prop := call.1.fault=some .sync ∨ call.1.fault=some .unlock

/-- A call leaves the file as it was, or the rows it drafted are there, less the evicted ones. -/
inductive Outcome (env:CacheEnv μ) (file:Option (CacheFile μ)) (call:Outside μ×UsageCall μ) (answer:Answer μ) : Prop where
 | failed : answer.1=file → (∃ error,answer.2=.error error) → Outcome env file call answer
 | absent : answer.1=file → (∃ accountId,call.2=.remove accountId) → Outcome env file call answer
 | committed (kept:Accounts μ) : validCacheAccountId call.2.accountId=true →
  Committed env call.2.accountId (drafted env file call.2) kept answer.1 →
   (answer.2=.ok () ∨ Unheard call) → Outcome env file call answer

theorem Outcome.locked {operation:Answer μ} (h:Outcome env file call operation) :
  Outcome env file call (withAccountUsageCacheLock call.1 file operation):=by
 unfold withAccountUsageCacheLock
 by_cases hlock:call.1.fault=some .lock
 · rw [if_pos hlock]
   exact .failed rfl ⟨_,rfl⟩
 · rw [if_neg hlock]
   obtain ⟨after,reply⟩:=operation
   cases reply with
   | error error=>exact h
   | ok=>
    have hreply:(if call.1.fault=some .unlock then Except.error CacheError.io else .ok ())=.ok () ∨ Unheard call:=by
     by_cases hunlock:call.1.fault=some .unlock
     · exact .inr (.inr hunlock)
     · exact .inl (if_neg hunlock)
    cases h with
    | failed hfile herror=>
     obtain ⟨error,herror⟩:=herror
     cases herror
    | absent hfile hremove=>exact .absent hfile hremove
    | committed kept hvalid hkept _=>exact .committed kept hvalid hkept hreply

theorem outcome_write (hvalid:validCacheAccountId call.2.accountId=true) :
  Outcome env file call (writeAccountUsageCache env call.1 file call.2.accountId (drafted env file call.2)):=by
 rcases write_cases env call.1 file call.2.accountId (drafted env file call.2) with ⟨hfile,herror⟩ | ⟨⟨kept,hkept⟩,hreply⟩
 · exact .failed hfile herror
 · exact .committed kept hvalid hkept (hreply.imp_right Or.inl)

theorem answer_outcome (env:CacheEnv μ) (file:Option (CacheFile μ)) (call:Outside μ×UsageCall μ) :
  Outcome env file call (answer env file call):=by
 obtain ⟨outside,operation⟩:=call
 cases operation with
 | persist accountId snapshot accountLabel accountActive=>
  change Outcome env file _ (persistAccountUsageToWithMetadata env outside file accountId snapshot accountLabel accountActive)
  unfold persistAccountUsageToWithMetadata
  cases hvalid:validCacheAccountId accountId with
  | false=>exact .failed rfl ⟨_,rfl⟩
  | true=>
   refine Outcome.locked ?_
   by_cases hread:outside.fault=some .read
   · rw [if_pos hread]
     exact .failed rfl ⟨_,rfl⟩
   · rw [if_neg hread]
     exact outcome_write hvalid
 | remove accountId=>
  change Outcome env file _ (removeAccountUsageFrom env outside file accountId)
  unfold removeAccountUsageFrom
  cases hvalid:validCacheAccountId accountId with
  | false=>exact .failed rfl ⟨_,rfl⟩
  | true=>
   refine Outcome.locked ?_
   by_cases hread:outside.fault=some .read
   · rw [if_pos hread]
     exact .failed rfl ⟨_,rfl⟩
   · rw [if_neg hread]
     dsimp only
     split_ifs
     · exact outcome_write hvalid
     · exact .absent rfl ⟨accountId,rfl⟩

/-- The document can be read again, and has room for its rows. -/
def Fits (env:CacheEnv μ) (file:Option (CacheFile μ)) : Prop :=
 ∀ document∈file,∃ accounts,document=⟨env.documentBytes accounts,some accounts⟩ ∧
  document.len ≤ accountUsageCacheMaxBytes ∧ accounts.keys.length ≤ accountUsageCacheMaxAccounts

theorem Committed.fits {kept:Accounts μ} (h:Committed env accountId accounts kept file) : Fits env file:=by
 intro document hdocument
 obtain rfl:=Option.some.inj (h.file.symm.trans hdocument)
 exact ⟨kept,rfl,h.bytes,h.number⟩

/-- Whatever the calls and their failures, the file is as it was found or has been written to fit;
and a call that reports an error has left it alone, but for failures behind the rename. -/
theorem cache_stays_in_bounds (env:CacheEnv μ) (file:Option (CacheFile μ)) (calls:List (Outside μ×UsageCall μ)) :
  (run env file calls=file ∨ Fits env (run env file calls)) ∧
   ∀ before call after,calls=before++call::after → let found:=run env file before
    (answer env found call).1=found ∨ (answer env found call).2=.ok () ∨ Unheard call:=by
 constructor
 · induction calls generalizing file with
   | nil=>exact .inl rfl
   | cons call calls ih=>
    have hlater:=ih (answer env file call).1
    have hsame:(answer env file call).1=file → run env file (call::calls)=file ∨ Fits env (run env file (call::calls)):=by
     intro hfile
     rw [hfile] at hlater
     change run env (answer env file call).1 calls=file ∨ Fits env (run env (answer env file call).1 calls)
     rwa [hfile]
    cases answer_outcome env file call with
    | failed hfile _=>exact hsame hfile
    | absent hfile _=>exact hsame hfile
    | committed kept _ hkept _=>
     refine .inr (hlater.elim (fun hfile=>?_) id)
     change Fits env (run env (answer env file call).1 calls)
     rw [hfile]
     exact hkept.fits
 · intro before call after _
   dsimp only
   cases answer_outcome env (run env file before) call with
   | failed hfile _=>exact .inl hfile
   | absent hfile _=>exact .inl hfile
   | committed _ _ _ hreply=>exact .inr hreply

def rowOf (file:Option (CacheFile μ)) (accountId:Text) : Option (CachedAccountUsageSnapshot μ) :=
 (file.bind CacheFile.accounts).bind fun accounts=>accounts.lookup accountId

/-- A document that fits, and of which no row is dropped when it is read. -/
structure Sound (env:CacheEnv μ) (file:Option (CacheFile μ)) : Prop where
 fits : Fits env file
 rows : ∀ accountId row,rowOf file accountId=some row → validCacheAccountId accountId=true ∧ readable row=true

theorem Sound.read (h:Sound env file) (accountId:Text) : (readCachedUsageEntries file).lookup accountId=rowOf file accountId:=by
 cases file with
 | none=>rfl
 | some document=>
  obtain ⟨accounts,rfl,hbytes,hnumber⟩:=h.fits document rfl
  unfold readCachedUsageEntries
  dsimp only
  have hall:accounts.entries.filter (fun entry=>validCacheAccountId entry.1&&readable entry.2)=accounts.entries:=by
   refine List.filter_eq_self.mpr fun entry hentry=>Bool.and_eq_true_iff.mpr ?_
   exact h.rows entry.1 entry.2 (AList.mem_lookup_iff.mpr hentry)
  have hperm:=List.mergeSort_perm accounts.entries fun first second=>decide (fetched second.2 ≤ fetched first.2)
  have hlength:=hperm.length_eq.trans (List.length_map Sigma.fst).symm
  rw [if_neg (not_lt.mpr hbytes),hall,List.take_of_length_le (hlength.le.trans hnumber),AList.lookup_to_alist]
  exact List.perm_dlookup accountId ((List.perm_nodupKeys hperm).mpr accounts.nodupKeys) hperm

/-- The clock of the snapshot stood behind the epoch. -/
def Dated (call:Outside μ×UsageCall μ) : Prop :=
 ∀ accountId snapshot accountLabel accountActive,
  call.2=.persist accountId snapshot accountLabel accountActive → 0<snapshot.fetchedAt

theorem fetched_keepMetadata (next:CachedAccountUsageSnapshot μ) (previous:Option (CachedAccountUsageSnapshot μ)) :
  (keepMetadata next previous).fetchedAtMs=next.fetchedAtMs ∧ (keepMetadata next previous).meters=next.meters:=by
 cases previous <;> exact ⟨rfl,rfl⟩

theorem AccountUsageSnapshot.ms_pos {snapshot:AccountUsageSnapshot μ} (h:0<snapshot.fetchedAt) : 0<snapshot.ms:=by
 unfold AccountUsageSnapshot.ms
 omega

/-- No row is drafted but that of the snapshot. -/
theorem drafted_row (h:(drafted env file call.2).lookup accountId=some row) :
  (readCachedUsageEntries file).lookup accountId=some row ∨
   ∃ snapshot accountLabel accountActive,call.2=.persist accountId snapshot accountLabel accountActive ∧
    row=keepMetadata (fromSnapshotWithMetadata env snapshot accountLabel accountActive)
      ((readCachedUsageEntries file).lookup accountId) ∧
    ((readCachedUsageEntries file).lookup accountId).all fun previous=>fetched previous ≤ fetched row:=by
 cases hop:call.2 with
 | persist current snapshot accountLabel accountActive=>
  rw [hop] at h
  change (published env (readCachedUsageEntries file) current snapshot accountLabel accountActive).lookup accountId=_ at h
  unfold published at h
  dsimp only at h
  split_ifs at h with hnewer
  · by_cases hsame:accountId=current
    · subst hsame
      rw [AList.lookup_insert] at h
      obtain rfl:=Option.some.inj h
      exact .inr ⟨_,_,_,rfl,rfl,hnewer⟩
    · rw [AList.lookup_insert_ne hsame] at h
      exact .inl h
  · exact .inl h
 | remove current=>
  rw [hop] at h
  change ((readCachedUsageEntries file).erase current).lookup accountId=_ at h
  by_cases hsame:accountId=current
  · rw [hsame,AList.lookup_erase] at h
    cases h
  · rw [AList.lookup_erase_ne hsame] at h
    exact .inl h

theorem fetched_published (env:CacheEnv μ) (accounts:Accounts μ) (accountId:Text) (snapshot:AccountUsageSnapshot μ)
  (accountLabel:Option Text) (accountActive:Option Bool)
  (h:(published env accounts accountId snapshot accountLabel accountActive).lookup accountId=some row) :
  snapshot.ms ≤ fetched row:=by
 have htime:∀ previous,fetched (keepMetadata (fromSnapshotWithMetadata env snapshot accountLabel accountActive) previous)=snapshot.ms:=by
  intro previous
  unfold fetched
  rw [(fetched_keepMetadata _ _).1]
  rfl
 unfold published at h
 dsimp only at h
 split_ifs at h with hnewer
 · rw [AList.lookup_insert] at h
   obtain rfl:=Option.some.inj h
   exact (htime _).ge
 · rw [h,htime] at hnewer
   exact (not_le.mp fun hle=>hnewer (decide_eq_true hle)).le

theorem Committed.rowOf {kept:Accounts μ} {current:Text} (h:Committed env current accounts kept file) (accountId:Text) :
  rowOf file accountId=kept.lookup accountId:=by
 rw [h.file]
 rfl

theorem Sound.step (h:Sound env file) (hdated:Dated call) : Sound env (answer env file call).1:=by
 cases answer_outcome env file call with
 | failed hfile _=>rwa [hfile]
 | absent hfile _=>rwa [hfile]
 | committed kept hvalid hkept _=>
  refine ⟨hkept.fits,fun accountId row hrow=>?_⟩
  rw [hkept.rowOf] at hrow
  rcases drafted_row (hkept.thinned.same accountId row hrow) with hread | ⟨snapshot,_,_,hop,rfl,-⟩
  · rw [h.read] at hread
    exact h.rows accountId row hread
  · rw [hop] at hvalid
    refine ⟨hvalid,?_⟩
    unfold readable
    rw [(fetched_keepMetadata _ _).1]
    exact decide_eq_true (AccountUsageSnapshot.ms_pos (hdated _ _ _ _ hop))

/-- A later row of an account is no older, and what was known of the account still is. -/
structure Follows (row later:CachedAccountUsageSnapshot μ) : Prop where
 fetched : fetched row ≤ fetched later
 accountLabel : row.accountLabel.isSome → later.accountLabel.isSome
 accountActive : row.accountActive.isSome → later.accountActive.isSome
 name : row.name.isSome → later.name.isSome
 email : row.email.isSome → later.email.isSome

theorem Follows.refl (row:CachedAccountUsageSnapshot μ) : Follows row row := ⟨le_rfl,id,id,id,id⟩

theorem Follows.trans {middle:CachedAccountUsageSnapshot μ} (h:Follows row middle) (h':Follows middle later) : Follows row later :=
 ⟨h.fetched.trans h'.fetched,h'.accountLabel ∘ h.accountLabel,h'.accountActive ∘ h.accountActive,
  h'.name ∘ h.name,h'.email ∘ h.email⟩

theorem follows_keepMetadata {next previous:CachedAccountUsageSnapshot μ} (h:fetched previous ≤ fetched next) :
  Follows previous (keepMetadata next (some previous)):=by
 have hor:∀ {α:Type} {known:Option α} (said:Option α),known.isSome → (said.or known).isSome:=by
  intro α known said hknown
  rw [Option.isSome_or,hknown,Bool.or_true]
 exact ⟨h,hor _,hor _,hor _,hor _⟩

/-- The row has the meters and the time of a snapshot that the call was given. -/
def Shows (env:CacheEnv μ) (accountId:Text) (call:UsageCall μ) (row:CachedAccountUsageSnapshot μ) : Prop :=
 ∃ snapshot accountLabel accountActive,call=.persist accountId snapshot accountLabel accountActive ∧
  row.meters=env.bounded snapshot.meters ∧ fetched row=snapshot.ms

/-- A snapshot that was persisted is not newer than the row. -/
def Covers (accountId:Text) (call:UsageCall μ) (reply:Except CacheError Unit) (row:CachedAccountUsageSnapshot μ) : Prop :=
 ∀ snapshot accountLabel accountActive,call=.persist accountId snapshot accountLabel accountActive →
  reply=.ok () → snapshot.ms ≤ fetched row

theorem row_step (h:Sound env file) (hrow:rowOf file accountId=some row)
  (hlater:rowOf (answer env file call).1 accountId=some later) :
  Follows row later ∧ Covers accountId call.2 (answer env file call).2 later ∧ (later=row ∨ Shows env accountId call.2 later):=by
 cases answer_outcome env file call with
 | failed hfile herror=>
  obtain ⟨error,herror⟩:=herror
  rw [hfile,hrow] at hlater
  obtain rfl:=Option.some.inj hlater
  exact ⟨.refl row,fun _ _ _ _ hok=>(by rw [herror] at hok; cases hok),.inl rfl⟩
 | absent hfile hremove=>
  obtain ⟨current,hremove⟩:=hremove
  rw [hfile,hrow] at hlater
  obtain rfl:=Option.some.inj hlater
  exact ⟨.refl row,fun _ _ _ hop=>(by rw [hremove] at hop; cases hop),.inl rfl⟩
 | committed kept _ hkept _=>
  rw [hkept.rowOf] at hlater
  have hdrafted:=hkept.thinned.same accountId later hlater
  have hread:=(h.read accountId).trans hrow
  refine ⟨?_,fun snapshot accountLabel accountActive hop _=>?_,?_⟩
  · rcases drafted_row hdrafted with hsame | ⟨snapshot,accountLabel,accountActive,-,hnext,hnewer⟩
    · obtain rfl:=Option.some.inj (hread.symm.trans hsame)
      exact .refl row
    · rw [hread] at hnext hnewer
      have hle:fetched row ≤ fetched later:=of_decide_eq_true hnewer
      subst hnext
      exact follows_keepMetadata hle
  · rw [hop] at hdrafted
    exact fetched_published env _ accountId snapshot accountLabel accountActive hdrafted
  · rcases drafted_row hdrafted with hsame | ⟨snapshot,accountLabel,accountActive,hop,rfl,-⟩
    · exact .inl (Option.some.inj (hsame.symm.trans hread))
    · refine .inr ⟨snapshot,accountLabel,accountActive,hop,(fetched_keepMetadata _ _).2,?_⟩
      unfold fetched
      rw [(fetched_keepMetadata _ _).1]
      rfl

/-- The account has a row before and behind every call. -/
def Present (env:CacheEnv μ) (accountId:Text) (file:Option (CacheFile μ)) : List (Outside μ×UsageCall μ) → Prop
 | []=>(rowOf file accountId).isSome
 | call::calls=>(rowOf file accountId).isSome ∧ Present env accountId (answer env file call).1 calls

theorem present_row (h:Present env accountId file calls) : (rowOf file accountId).isSome:=by
 cases calls with
 | nil=>exact h
 | cons=>exact h.1

/-- While an account has a row, the row never goes back in time or forgets who the account is, it
is one of the snapshots persisted meanwhile or the row it was, and as new as each of them. -/
structure NewestKept (env:CacheEnv μ) (accountId:Text) (file:Option (CacheFile μ))
  (calls:List (Outside μ×UsageCall μ)) (row later:CachedAccountUsageSnapshot μ) : Prop where
 follows : Follows row later
 shown : later=row ∨ ∃ call∈calls,Shows env accountId call.2 later
 covers : ∀ before call after,calls=before++call::after →
  Covers accountId call.2 (answer env (run env file before) call).2 later

theorem newest_snapshot_kept (hsound:Sound env file) (hdated:∀ call∈calls,Dated call)
  (hpresent:Present env accountId file calls) (hrow:rowOf file accountId=some row)
  (hlater:rowOf (run env file calls) accountId=some later) : NewestKept env accountId file calls row later:=by
 induction calls generalizing file row with
 | nil=>
  obtain rfl:=Option.some.inj (hrow.symm.trans hlater)
  refine ⟨.refl row,.inl rfl,fun before call after hnil=>?_⟩
  exact absurd hnil.symm (List.append_ne_nil_of_right_ne_nil before (List.cons_ne_nil call after))
 | cons call calls ih=>
  obtain ⟨middle,hmiddle⟩:=Option.isSome_iff_exists.mp (present_row hpresent.2)
  obtain ⟨hfollows,hcovers,hshows⟩:=row_step hsound hrow hmiddle
  have hrest:=
   ih (hsound.step (hdated call List.mem_cons_self)) (fun other hother=>hdated other (List.mem_cons_of_mem call hother))
    hpresent.2 hmiddle hlater
  refine ⟨hfollows.trans hrest.follows,?_,?_⟩
  · rcases hrest.shown with rfl | ⟨other,hother,hshown⟩
    · exact hshows.imp_right fun hshown=>⟨call,List.mem_cons_self,hshown⟩
    · exact .inr ⟨other,List.mem_cons_of_mem call hother,hshown⟩
  · intro before other after hsplit
    cases before with
    | nil=>
     obtain ⟨rfl,-⟩:=List.cons.inj hsplit
     exact fun snapshot accountLabel accountActive hop hok=>
      (hcovers snapshot accountLabel accountActive hop hok).trans hrest.follows.fetched
    | cons first before=>
     obtain rfl:=(List.cons.inj hsplit).1
     exact hrest.covers before other after (List.cons.inj hsplit).2

theorem published_isSome (env:CacheEnv μ) (accounts:Accounts μ) (accountId:Text) (snapshot:AccountUsageSnapshot μ)
  (accountLabel:Option Text) (accountActive:Option Bool) :
  ((published env accounts accountId snapshot accountLabel accountActive).lookup accountId).isSome:=by
 unfold published
 dsimp only
 split_ifs with hnewer
 · rw [AList.lookup_insert]
   rfl
 · cases hprevious:accounts.lookup accountId with
   | none=>
    rw [hprevious] at hnewer
    exact absurd rfl hnewer
   | some=>rfl

theorem drafted_other (env:CacheEnv μ) (file:Option (CacheFile μ)) {call:UsageCall μ} (h:accountId≠call.accountId) :
  (drafted env file call).lookup accountId=(readCachedUsageEntries file).lookup accountId:=by
 cases call with
 | persist current snapshot accountLabel accountActive=>
  change (published env (readCachedUsageEntries file) current snapshot accountLabel accountActive).lookup accountId=_
  unfold published
  dsimp only
  split_ifs
  · exact AList.lookup_insert_ne h
  · rfl
 | remove current=>exact AList.lookup_erase_ne h

/-- A snapshot that is persisted has a row afterwards, and what a call drops of the other accounts
is no newer than what it keeps of them. -/
structure OldestEvicted (env:CacheEnv μ) (file:Option (CacheFile μ)) (call:Outside μ×UsageCall μ) : Prop where
 written : ∀ accountId snapshot accountLabel accountActive,
  call.2=.persist accountId snapshot accountLabel accountActive →
   (rowOf file accountId).isSome ∨ (answer env file call).2=.ok () → (rowOf (answer env file call).1 accountId).isSome
 evicted : ∀ gone lost other held,gone≠call.2.accountId → rowOf file gone=some lost →
  rowOf (answer env file call).1 gone=none → other≠call.2.accountId →
   rowOf (answer env file call).1 other=some held → fetched lost ≤ fetched held

theorem oldest_rows_evicted (hsound:Sound env file) (call:Outside μ×UsageCall μ) : OldestEvicted env file call:=by
 have hunchanged:∀ {gone lost},(answer env file call).1=file → rowOf file gone=some lost → rowOf (answer env file call).1 gone≠none:=by
  intro gone lost hfile hlost hgone
  rw [hfile,hlost] at hgone
  cases hgone
 cases answer_outcome env file call with
 | failed hfile herror=>
  obtain ⟨error,herror⟩:=herror
  refine ⟨fun _ _ _ _ _ hkept=>?_,fun _ _ _ _ _ hlost hgone=>absurd hgone (hunchanged hfile hlost)⟩
  rw [hfile]
  exact hkept.resolve_right fun hok=>(by rw [herror] at hok; cases hok)
 | absent hfile hremove=>
  obtain ⟨current,hremove⟩:=hremove
  exact ⟨fun _ _ _ _ hop=>(by rw [hremove] at hop; cases hop),
   fun _ _ _ _ _ hlost hgone=>absurd hgone (hunchanged hfile hlost)⟩
 | committed kept _ hkept _=>
  refine ⟨fun accountId snapshot accountLabel accountActive hop _=>?_,fun gone lost other held hother hlost hgone hheld hkeptOther=>?_⟩
  · have hsame:=hkept.thinned.kept
    rw [hop] at hsame
    rw [hkept.rowOf]
    change kept.lookup accountId=(published env _ accountId snapshot accountLabel accountActive).lookup accountId at hsame
    rw [hsame]
    exact published_isSome env _ accountId snapshot accountLabel accountActive
  · rw [hkept.rowOf] at hgone hkeptOther
    refine hkept.thinned.oldest gone lost other held ?_ hgone hheld hkeptOther
    rw [drafted_other env file hother,hsound.read,hlost]

theorem sound_none (env:CacheEnv μ) : Sound env none := ⟨nofun,nofun⟩

/-- Rows with one letter for the account, one digit for the time and nothing else. -/
def plainEnv : CacheEnv Unit := ⟨fun accounts=>38+accounts.keys.length*463,id⟩

def persistAt (accountId:String) (fetchedAt:ℤ) : Outside Unit×UsageCall Unit :=
 (⟨⟨id,fun _=>.refl _⟩,none⟩,.persist accountId.toList ⟨none,none,(),fetchedAt⟩ none none)

def rowAt (fetchedAtMs:ℕ) : CachedAccountUsageSnapshot Unit := ⟨none,none,none,none,(),some fetchedAtMs⟩

theorem persistAt_dated {accountId:String} {fetchedAt:ℤ} (h:0<fetchedAt) : Dated (persistAt accountId fetchedAt):=by
 intro _ _ _ _ hop
 cases hop
 exact h

/-- A worker that comes late does not set the row back. -/
theorem newest_snapshot_kept_late :
  NewestKept plainEnv ['a'] (answer plainEnv none (persistAt "a" 5)).1 [persistAt "a" 3,persistAt "b" 4] (rowAt 5) (rowAt 5):=by
 refine newest_snapshot_kept ((sound_none plainEnv).step (persistAt_dated (by decide))) (fun call hcall=>?_)
  ⟨by decide +kernel,by decide +kernel,by unfold Present; decide +kernel⟩ rfl (by decide +kernel)
 rcases List.mem_cons.mp hcall with rfl | hcall
 · exact persistAt_dated (by decide)
 · obtain rfl:=List.mem_singleton.mp hcall
   exact persistAt_dated (by decide)

theorem oldest_rows_evicted_late : OldestEvicted plainEnv (answer plainEnv none (persistAt "a" 5)).1 (persistAt "b" 4) :=
 oldest_rows_evicted ((sound_none plainEnv).step (persistAt_dated (by decide))) _

end CursorProxy.UsageCache
