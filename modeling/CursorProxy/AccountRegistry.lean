import CursorProxy.AccountFailover
import CursorProxy.KeyedUpserts

/-! The pool of accounts lies beside the credential that is in use, its mirror, and every
operation brings the two together before it changes one. Of what `enrich` reads from a token only
the email matters here. Which writes succeed is a parameter of each operation. -/
namespace CursorProxy.AccountRegistry
open AccountFailover KeyedUpserts RetryPolicy SseEvents XmlElements

structure StoredCursorAuth where
 accessToken : Text
 refreshToken : Option Text
 apiKey : Option Text
 deriving DecidableEq

structure StoredCursorAccount where
 id : Text
 label : Option Text
 auth : StoredCursorAuth
 deriving DecidableEq

structure StoredCursorAccounts where
 activeId : Option Text := none
 accounts : List StoredCursorAccount := []
 deriving DecidableEq

/-- The credential is read from the legacy file when its own file is missing. -/
structure Files where
 authFile : Option StoredCursorAuth
 legacyAuthFile : Option StoredCursorAuth
 accountsFile : Option StoredCursorAccounts
 /-- The selectors of `cursor.modelAccounts`. -/
 routes : List Text
 deriving DecidableEq

structure Writes where
 auth : Bool := true
 accounts : Bool := true
 routes : Bool := true
 removeAuth : Bool := true
 removeLegacyAuth : Bool := true

inductive AccountError where
 | accessTokenRequired
 | accountIdRequired
 | accountNotFound (id:Text)
 | accountNoLongerExists (id:Text)
 | differentIdentity
 | writeFailed
 deriving DecidableEq

abbrev Outcome (α:Type) := Except AccountError α×Files

variable (env:FailoverEnv) (writes:Writes)

def isBlank (text:Text) : Bool := (trim text).isEmpty

def email (auth:StoredCursorAuth) : Option Text :=
 (env.parseJwtClaims auth.accessToken).bind JwtClaims.email

def normalizeAccountLabel (label:Option Text) : Option Text :=
 (label.map trim).filter nonempty

def storeLoad (files:Files) : Option StoredCursorAuth := files.authFile.or files.legacyAuthFile

def saveAuth (auth:StoredCursorAuth) (files:Files) : Outcome Unit :=
 if isBlank auth.accessToken then (.error .accessTokenRequired,files)
 else if writes.auth then (.ok (),{ files with authFile := some auth })
 else (.error .writeFailed,files)

/-- A file that does not exist need not be deleted. -/
def clearAuth (files:Files) : Outcome Unit :=
 if files.authFile.isSome&&!writes.removeAuth then (.error .writeFailed,files)
 else if files.legacyAuthFile.isSome&&!writes.removeLegacyAuth then
  (.error .writeFailed,{ files with authFile := none })
 else (.ok (),{ files with authFile := none,legacyAuthFile := none })

def wellFormed (account:StoredCursorAccount) : Bool :=
 !isBlank account.id&&!isBlank account.auth.accessToken

def StoredCursorAccounts.find (stored:StoredCursorAccounts) (id:Text) :
 Option StoredCursorAccount := stored.accounts.find? fun account=>account.id=id

def textLe : Text → Text → Bool
 | [],_=>true
 | _::_,[]=>false
 | first::text,other::texts=>
  first.toNat<other.toNat||(first==other&&textLe text texts)

/-- Malformed entries are ignored, and an active id that names none is replaced. -/
def readAccounts (raw:StoredCursorAccounts) : StoredCursorAccounts :=
 let accounts:=(raw.accounts.filter wellFormed).insertionSort fun a b=>textLe a.id b.id
 { accounts := accounts
   activeId := match raw.activeId with
    | some active=>
     if accounts.any fun account=>account.id=active then some active
     else accounts.head?.map StoredCursorAccount.id
    | none=>none }

def loadStoredAccounts (files:Files) : Option StoredCursorAccounts :=
 files.accountsFile.map readAccounts

def saveStoredAccounts (stored:StoredCursorAccounts) (files:Files) : Outcome Unit :=
 if writes.accounts then (.ok (),{ files with accountsFile := some stored })
 else (.error .writeFailed,files)

/-- `load_auth_for_registry_raw` without the credentials of the official client. -/
def loadAuthForRegistryRaw (files:Files) : Option StoredCursorAuth :=
 (storeLoad files).filter fun auth=>!isBlank auth.accessToken

def storedAccountId (auth:StoredCursorAuth) : Text := cursorAccountDigest env auth.accessToken

def storedAuthIdentityMatches (a b:StoredCursorAuth) : Bool :=
 storedAccountId env a=storedAccountId env b||match a.refreshToken,b.refreshToken with
  | some left,some right=>!isBlank left&&!isBlank right&&trim left=trim right
  | _,_=>false

def cursorTokenHasStableIdentity (token:Text) : Bool :=
 match env.parseJwtClaims token with
 | none=>false
 | some claims=>[claims.sub,claims.email].any fun value=>match value with
  | none=>false
  | some value=>!isBlank value

def upsertStoredAccount (stored:StoredCursorAccounts) (account:StoredCursorAccount) : StoredCursorAccounts :=
 { stored with accounts := upsert StoredCursorAccount.id account stored.accounts }

/-- The entry of a login: the active one if it is this login's, else the first that is,
else a new one. -/
def loginId (stored:StoredCursorAccounts) (auth:StoredCursorAuth) : Text :=
 let active:=stored.activeId.filter fun id=>match stored.find id with
  | some account=>storedAuthIdentityMatches env account.auth auth
  | none=>false
 let found:=(stored.accounts.find? fun account=>
  storedAuthIdentityMatches env account.auth auth).map StoredCursorAccount.id
 (active.or found).getD (storedAccountId env auth)

def upsertLogin (stored:StoredCursorAccounts) (auth:StoredCursorAuth) : StoredCursorAccounts :=
 let id:=loginId env stored auth
 let label:=((stored.find id).bind StoredCursorAccount.label).or (email env auth)
 upsertStoredAccount stored ⟨id,label,auth⟩

def syncActiveRegistry (stored:StoredCursorAccounts) (active:Option StoredCursorAuth) : StoredCursorAccounts :=
 match active with
 | none=>stored
 | some auth=>
  if isBlank auth.accessToken then stored
  else { upsertLogin env stored auth with activeId := some (loginId env stored auth) }

/-- The login that is being replaced stays in the pool. -/
def preservePrevious (stored:StoredCursorAccounts) (previous:Option StoredCursorAuth) : StoredCursorAccounts :=
 match previous with
 | none=>stored
 | some auth=>
  if isBlank auth.accessToken then stored
  else { upsertLogin env stored auth with
   activeId := stored.activeId.or (some (loginId env stored auth)) }

def migrateLogin (stored:StoredCursorAccounts) (previous:Option StoredCursorAuth) : StoredCursorAccounts :=
 match previous with
 | none=>stored
 | some auth=>
  if stored.accounts.isEmpty&&!isBlank auth.accessToken then
   { activeId := some (storedAccountId env auth)
     accounts := stored.accounts++[⟨storedAccountId env auth,email env auth,auth⟩] }
  else stored

def entryId (stored:StoredCursorAccounts) (auth:StoredCursorAuth) : Text :=
 ((stored.accounts.find? fun account=>account.id=storedAccountId env auth ||
  storedAuthIdentityMatches env account.auth auth).map StoredCursorAccount.id).getD (storedAccountId env auth)

def entryLabel (stored:StoredCursorAccounts) (id:Text) (auth:StoredCursorAuth) (label:Option Text) : Option Text :=
 ((normalizeAccountLabel label).or (normalizeAccountLabel
  ((stored.find id).bind StoredCursorAccount.label))).or (email env auth)

/-- The refresh in front of the lock is a step of its own. -/
def saveCursorAuthAsActive (auth:StoredCursorAuth) (label:Option Text) (files:Files) : Outcome StoredCursorAuth :=
 if isBlank auth.accessToken then (.error .accessTokenRequired,files)
 else
  let previous:=loadAuthForRegistryRaw files
  let stored:=preservePrevious env
   (syncActiveRegistry env ((loadStoredAccounts files).getD {}) previous) previous
  let id:=entryId env stored auth
  match saveAuth writes auth files with
  | (.error error,files)=>(.error error,files)
  | (.ok (),files)=>
   let account:=⟨id,entryLabel env stored id auth label,auth⟩
   let stored:={ upsertStoredAccount stored account with activeId := some id }
   match saveStoredAccounts writes stored files with
   | (.error error,files)=>(.error error,files)
   | (.ok (),files)=>(.ok auth,files)

def addCursorAuth (auth:StoredCursorAuth) (label:Option Text) (files:Files) : Outcome StoredCursorAuth :=
 if isBlank auth.accessToken then (.error .accessTokenRequired,files)
 else
  let previous:=loadAuthForRegistryRaw files
  let stored:=migrateLogin env
   (syncActiveRegistry env ((loadStoredAccounts files).getD {}) previous) previous
  let id:=entryId env stored auth
  let replacesActive:=stored.activeId=some id
  let account:=⟨id,entryLabel env stored id auth label,auth⟩
  let firstAccount:=stored.activeId.isNone
  let stored:={ upsertStoredAccount stored account with
   activeId := if firstAccount then some id else stored.activeId }
  match saveStoredAccounts writes stored files with
  | (.error error,files)=>(.error error,files)
  | (.ok (),files)=>
   if firstAccount||replacesActive then
    match saveAuth writes auth files with
    | (.error error,files)=>(.error error,files)
    | (.ok (),files)=>(.ok auth,files)
   else (.ok auth,files)

def switchCursorAccount (id:Text) (files:Files) : Outcome StoredCursorAccount :=
 let id:=trim id
 if id.isEmpty then (.error .accountIdRequired,files)
 else
  let active:=loadAuthForRegistryRaw files
  let stored:=migrateLogin env
   (syncActiveRegistry env ((loadStoredAccounts files).getD {}) active) active
  match stored.find id with
  | none=>(.error (.accountNotFound id),files)
  | some account=>
   match saveAuth writes account.auth files with
   | (.error error,files)=>(.error error,files)
   | (.ok (),files)=>
    match saveStoredAccounts writes { stored with activeId := some account.id } files with
    | (.error error,files)=>(.error error,files)
    | (.ok (),files)=>(.ok account,files)

/-- A selector that still selects one of the other accounts stays. -/
def removeRoutes (removed:StoredCursorAccount) (remaining:List StoredCursorAccount) (files:Files) : Outcome Unit :=
 let selects selector (account:StoredCursorAccount) :=
  accountSelectorMatches selector account.id account.label (email env account.auth)
 let filtered:=files.routes.filter fun selector=>
  !selects selector removed||remaining.any (selects selector)
 if filtered.length=files.routes.length then (.ok (),files)
 else if writes.routes then (.ok (),{ files with routes := filtered })
 else (.error .writeFailed,files)

def removeCursorAccount (id:Text) (files:Files) : Outcome (Option StoredCursorAccount) :=
 let id:=trim id
 if id.isEmpty then (.error .accountIdRequired,files)
 else
  let stored:=syncActiveRegistry env ((loadStoredAccounts files).getD {})
   (loadAuthForRegistryRaw files)
  match stored.find id with
  | none=>(.error (.accountNotFound id),files)
  | some removed=>
   let remaining:=stored.accounts.filter fun account=>account.id≠id
   match removeRoutes env writes removed remaining files with
   | (.error error,files)=>(.error error,files)
   | (.ok (),files)=>
    if stored.activeId=some id then
     let moved:=match remaining with
      | account::_=>saveAuth writes account.auth files
      | []=>clearAuth writes files
     match moved with
     | (.error error,files)=>(.error error,files)
     | (.ok (),files)=>
      let stored:=⟨remaining.head?.map StoredCursorAccount.id,remaining⟩
      match saveStoredAccounts writes stored files with
      | (.error error,files)=>(.error error,files)
      | (.ok (),files)=>(.ok remaining.head?,files)
    else
     let dangling:=stored.activeId.any fun active=>
      !remaining.any fun account=>account.id=active
     let stored:=if dangling then
      ⟨remaining.head?.map StoredCursorAccount.id,remaining⟩
      else ⟨stored.activeId,remaining⟩
     match saveStoredAccounts writes stored files with
     | (.error error,files)=>(.error error,files)
     | (.ok (),files)=>(.ok (stored.activeId.bind stored.find),files)

def listCursorAccounts (files:Files) : Outcome (List StoredCursorAccount) :=
 let active:=loadAuthForRegistryRaw files
 match loadStoredAccounts files with
 | none=>
  (.ok ((active.map fun auth=>⟨storedAccountId env auth,email env auth,auth⟩).toList),files)
 | some before=>
  let stored:=syncActiveRegistry env before active
  if stored=before then (.ok stored.accounts,files)
  else
   match saveStoredAccounts writes stored files with
   | (.error error,files)=>(.error error,files)
   | (.ok (),files)=>(.ok stored.accounts,files)

structure RefreshResponse where
 accessToken : Text
 refreshToken : Text

/-- A response without a refresh token keeps the old one. -/
def RefreshResponse.next (refreshed:RefreshResponse) (auth:StoredCursorAuth) : StoredCursorAuth where
 accessToken := refreshed.accessToken
 refreshToken :=
  if refreshed.refreshToken.isEmpty then auth.refreshToken else some refreshed.refreshToken
 apiKey := auth.apiKey

def changesIdentity (before next:Text) : Bool :=
 (cursorTokenHasStableIdentity env before||cursorTokenHasStableIdentity env next) &&
  cursorAccountDigest env next≠cursorAccountDigest env before

def syncRegistryAccountCredentials (stored:StoredCursorAccounts) (previousAccessToken:Text)
 (next:StoredCursorAuth) : Option StoredCursorAccounts :=
 let previousDigest:=cursorAccountDigest env previousAccessToken
 match stored.activeId with
 | none=>none
 | some activeId=>
  if changesIdentity env previousAccessToken next.accessToken then none
  else match stored.find activeId with
   | none=>none
   | some account=>
    if account.id≠previousDigest ∧ storedAccountId env account.auth≠previousDigest then none
    else if account.auth=next then none
    else some (upsertStoredAccount stored { account with auth := next })

/-- The commit of a refresh that was started with the credential. What the registry makes of
it is not reported. -/
def commitRefresh (auth:StoredCursorAuth) (refreshed:RefreshResponse) (files:Files) :
 Outcome (Option StoredCursorAuth) :=
 match storeLoad files with
 | none=>(.ok none,files)
 | some current=>
  if isBlank current.accessToken then (.ok none,files)
  else if current≠auth then (.ok (some current),files)
  else
   let next:=refreshed.next auth
   match saveAuth writes next files with
   | (.error error,files)=>(.error error,files)
   | (.ok (),files)=>
    match (loadStoredAccounts files).bind fun stored=>
     syncRegistryAccountCredentials env stored auth.accessToken next with
    | none=>(.ok (some next),files)
    | some stored=>(.ok (some next),(saveStoredAccounts writes stored files).2)

def refreshCursorAccountForUsage (profile:StoredCursorAccount) (active:Bool)
 (refreshed:RefreshResponse) (files:Files) : Outcome StoredCursorAuth :=
 match (loadStoredAccounts files).bind fun stored=>
  (stored.find profile.id).map fun account=>(stored,account) with
 | some (stored,account)=>
  let next:=refreshed.next account.auth
  if changesIdentity env account.auth.accessToken next.accessToken then
   (.error .differentIdentity,files)
  else
   let saved:=if stored.activeId=some profile.id then saveAuth writes next files
    else (.ok (),files)
   match saved with
   | (.error error,files)=>(.error error,files)
   | (.ok (),files)=>
    match saveStoredAccounts writes
     (upsertStoredAccount stored { account with auth := next }) files with
    | (.error error,files)=>(.error error,files)
    | (.ok (),files)=>(.ok next,files)
 | none=>
  if !active then (.error (.accountNoLongerExists profile.id),files)
  else
   let next:=refreshed.next profile.auth
   if changesIdentity env profile.auth.accessToken next.accessToken then
    (.error .differentIdentity,files)
   else
    match (storeLoad files).filter fun current=>
     current.accessToken≠profile.auth.accessToken with
    | some current=>(.ok current,files)
    | none=>
     match saveAuth writes next files with
     | (.error error,files)=>(.error error,files)
     | (.ok (),files)=>(.ok next,files)

inductive Operation where
 | saveCursorAuthAsActive (auth:StoredCursorAuth) (label:Option Text)
 | addCursorAuth (auth:StoredCursorAuth) (label:Option Text)
 | switchCursorAccount (id:Text)
 | removeCursorAccount (id:Text)
 | listCursorAccounts
 | commitRefresh (auth:StoredCursorAuth) (refreshed:RefreshResponse)
 | refreshCursorAccountForUsage (profile:StoredCursorAccount) (active:Bool)
  (refreshed:RefreshResponse)

/-- What is returned is left out, save that it was an error. -/
def perform (files:Files) : Operation → Outcome Unit
 | .saveCursorAuthAsActive auth label=>
  (saveCursorAuthAsActive env writes auth label files).map (·.map fun _=>()) id
 | .addCursorAuth auth label=>
  (addCursorAuth env writes auth label files).map (·.map fun _=>()) id
 | .switchCursorAccount id=>
  (switchCursorAccount env writes id files).map (·.map fun _=>()) fun files=>files
 | .removeCursorAccount id=>
  (removeCursorAccount env writes id files).map (·.map fun _=>()) fun files=>files
 | .listCursorAccounts=>(listCursorAccounts env writes files).map (·.map fun _=>()) id
 | .commitRefresh auth refreshed=>
  (commitRefresh env writes auth refreshed files).map (·.map fun _=>()) id
 | .refreshCursorAccountForUsage profile active refreshed=>
  (refreshCursorAccountForUsage env writes profile active refreshed files).map (·.map fun _=>()) id

end CursorProxy.AccountRegistry
