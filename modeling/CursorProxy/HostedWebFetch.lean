import CursorProxy.IpAddresses
import CursorProxy.RetryPolicy

/-! A page is fetched for the client by the proxy, which must not reach an internal host. The url
crate and the resolver are parameters; a connection uses one of the addresses that the check has
seen. -/
namespace CursorProxy.HostedWebFetch
open XmlElements RetryPolicy IpAddresses

def maxUrlLen : ℕ := 250
def maxRedirects : ℕ := 3

structure FetchError where
 code : String
 message : String
 deriving DecidableEq

structure UrlCrate (U:Type) where
 parse : String → Option U
 scheme : U → String
 hostStr : U → Option String
 asStr : U → String

/-- The text of a URL has no whitespace around it and parses to the URL. -/
def UrlCrate.Faithful {U:Type} (crate:UrlCrate U) : Prop :=
 ∀ url,trim (crate.asStr url).toList=(crate.asStr url).toList ∧ crate.parse (crate.asStr url)=some url

/-- What a name resolves to; `none` is an error. -/
abbrev Resolver := String → Option (List IpAddr)

def ipIsBlocked : IpAddr → Bool
 | .v4 addr=>
  addr.isLoopback||addr.isUnspecified||addr.isBroadcast||addr.isLinkLocal ||
   addr.isPrivate||addr.a==0
 | .v6 addr=>
  addr.isLoopback||addr.isUnspecified||addr.isUnicastLinkLocal||addr.isUniqueLocal ||
   addr.toIpv4Mapped.any fun mapped=>
    mapped.isLoopback||mapped.isPrivate||mapped.isLinkLocal||mapped.isUnspecified

def isBracket (char:Char) : Bool := char == '[' || char == ']'

def isDot (char:Char) : Bool := char == '.'

def trimBrackets (host:Text) : Text := (host.dropWhile isBracket).rdropWhile isBracket

def lowerHost (host:Text) : Text :=
 toAsciiLowercase ((trimBrackets host).rdropWhile isDot)

def hostIsBlocked (host:Text) : Bool :=
 let lower:=lowerHost host
 if lower = "localhost".toList || ".localhost".toList.isSuffixOf lower ||
   ".local".toList.isSuffixOf lower||lower = "metadata.google.internal".toList ||
   lower = "metadata".toList then true
 else (parseIpAddr lower).any ipIsBlocked

variable {U:Type}

def hostOf (crate:UrlCrate U) (url:U) : String := (crate.hostStr url).getD ""

def validateFetchUrl (crate:UrlCrate U) (url:String) : Except FetchError U :=
 let trimmed:=String.ofList (trim url.toList)
 if trimmed.isEmpty then .error ⟨"invalid_input","empty URL"⟩
 else if maxUrlLen<trimmed.utf8ByteSize then
  .error ⟨"url_too_long","URL exceeds 250 characters"⟩
 else
  match crate.parse trimmed with
  | none=>.error ⟨"invalid_input","Invalid URL format: " ++ trimmed⟩
  | some parsed=>
   if crate.scheme parsed ≠ "http" ∧ crate.scheme parsed ≠ "https" then
    .error ⟨"url_not_allowed","scheme " ++ crate.scheme parsed ++ " is not allowed"⟩
   else if (hostOf crate parsed).isEmpty then
    .error ⟨"invalid_input","URL is missing a host"⟩
   else if hostIsBlocked (hostOf crate parsed).toList then
    .error ⟨"url_not_allowed","host " ++ hostOf crate parsed ++ " is not allowed"⟩
   else .ok parsed

def rejectResolvedBlockedIps (dns:Resolver) (host:String) : Except FetchError Unit :=
 if host.isEmpty then .ok ()
 else
  match parseIpAddr host.toList with
  | some ip=>
   if ipIsBlocked ip then .error ⟨"url_not_allowed","host " ++ host ++ " is not allowed"⟩
   else .ok ()
  | none=>
   match dns host with
   | none=>.error ⟨"url_not_allowed","host " ++ host ++ " could not be resolved"⟩
   | some addrs=>
    if addrs.isEmpty then
     .error ⟨"url_not_allowed","host " ++ host ++ " could not be resolved"⟩
    else if addrs.any ipIsBlocked then
     .error ⟨"url_not_allowed","host " ++ host ++ " resolved to a blocked address"⟩
    else .ok ()

/-- A redirect that is answered, and what the resolver says at that time. -/
structure Hop (U:Type) where
 location : U
 dns : Resolver

/-- A request, and the addresses that were seen for its host. -/
structure Sent (U:Type) where
 url : U
 addrs : List IpAddr

def seenAddrs (dns:Resolver) (host:String) : List IpAddr :=
 match parseIpAddr host.toList with
 | some ip=>[ip]
 | none=>(dns host).getD []

def redirectPolicy (crate:UrlCrate U) (previous:List (Sent U)) (hop:Hop U) : Except String Unit :=
 if maxRedirects ≤ previous.length then .error "too many redirects"
 else
  match validateFetchUrl crate (crate.asStr hop.location) with
  | .error error=>.error error.message
  | .ok url=>
   match rejectResolvedBlockedIps hop.dns (hostOf crate url) with
   | .error error=>.error error.message
   | .ok ()=>.ok ()

/-- The requests from the last one that was sent on; `previous` holds those sent so far. -/
def followRedirects (crate:UrlCrate U) (previous:List (Sent U)) : List (Hop U) → List (Sent U)
 | []=>previous
 | hop::hops=>
  match redirectPolicy crate previous hop with
  | .error _=>previous
  | .ok ()=>
   followRedirects crate (previous++[⟨hop.location,seenAddrs hop.dns (hostOf crate hop.location)⟩]) hops

/-- The requests that `fetch_web` sends. What is checked of the last answer sends none. -/
def fetchWeb (crate:UrlCrate U) (dns:Resolver) (url:String) (hops:List (Hop U)) : List (Sent U) :=
 match validateFetchUrl crate url with
 | .error _=>[]
 | .ok parsed=>
  match rejectResolvedBlockedIps dns (hostOf crate parsed) with
  | .error _=>[]
  | .ok ()=>
   match crate.parse (crate.asStr parsed) with
   | none=>[]
   | some target=>
    followRedirects crate [⟨target,seenAddrs dns (hostOf crate target)⟩] hops

/-- An http or https URL of a host that is not blocked, with only addresses that are not. -/
structure Screened (crate:UrlCrate U) (request:Sent U) : Prop where
 scheme : crate.scheme request.url = "http" ∨ crate.scheme request.url = "https"
 host : (hostOf crate request.url).isEmpty=false
 allowed : hostIsBlocked (hostOf crate request.url).toList=false
 resolved : request.addrs≠[]
 addrs : ∀ addr∈request.addrs,ipIsBlocked addr=false

variable {crate:UrlCrate U} {dns:Resolver}

theorem validateFetchUrl_ok {url:String} {parsed:U} (h:validateFetchUrl crate url=.ok parsed) :
  crate.parse (String.ofList (trim url.toList))=some parsed ∧
   (crate.scheme parsed = "http" ∨ crate.scheme parsed = "https") ∧
   (hostOf crate parsed).isEmpty=false ∧ hostIsBlocked (hostOf crate parsed).toList=false:=by
 unfold validateFetchUrl at h
 dsimp only at h
 split_ifs at h
 split at h
 · exact absurd h (by simp)
 · rename_i found hfound
   split_ifs at h with hscheme hhost hblocked
   obtain rfl:=Except.ok.inj h
   refine ⟨hfound,?_,Bool.eq_false_iff.mpr hhost,Bool.eq_false_iff.mpr hblocked⟩
   by_contra hother
   exact hscheme (not_or.mp hother)

theorem rejectResolvedBlockedIps_ok {host:String} (hhost:host.isEmpty=false)
  (h:rejectResolvedBlockedIps dns host=.ok ()) :
  seenAddrs dns host≠[] ∧ ∀ addr∈seenAddrs dns host,ipIsBlocked addr=false:=by
 unfold rejectResolvedBlockedIps at h
 rw [if_neg (Bool.eq_false_iff.mp hhost)] at h
 split at h
 · rename_i ip hip
   split_ifs at h with hblocked
   have hseen:seenAddrs dns host=[ip]:=by
    unfold seenAddrs
    rw [hip]
   rw [hseen]
   exact ⟨List.cons_ne_nil _ _,List.forall_mem_singleton.mpr (Bool.eq_false_iff.mpr hblocked)⟩
 · rename_i hip
   split at h
   · exact absurd h (by simp)
   · rename_i addrs haddrs
     split_ifs at h with hempty hblocked
     have hseen:seenAddrs dns host=addrs:=by
      unfold seenAddrs
      rw [hip,haddrs]
      rfl
     rw [hseen]
     refine ⟨fun hnil=>hempty (List.isEmpty_iff.mpr hnil),fun addr haddr=>?_⟩
     exact Bool.eq_false_iff.mpr fun hself=>hblocked (List.any_eq_true.mpr ⟨addr,haddr,hself⟩)

theorem Screened.of_checks {url:String} {parsed:U} (hvalid:validateFetchUrl crate url=.ok parsed)
  (hresolved:rejectResolvedBlockedIps dns (hostOf crate parsed)=.ok ()) :
  Screened crate ⟨parsed,seenAddrs dns (hostOf crate parsed)⟩:=by
 obtain ⟨_,hscheme,hhost,hallowed⟩:=validateFetchUrl_ok hvalid
 obtain ⟨hsome,haddrs⟩:=rejectResolvedBlockedIps_ok hhost hresolved
 exact ⟨hscheme,hhost,hallowed,hsome,haddrs⟩

theorem redirectPolicy_ok {previous:List (Sent U)} {hop:Hop U} (hcrate:crate.Faithful)
  (h:redirectPolicy crate previous hop=.ok ()) :
  previous.length < maxRedirects ∧ Screened crate ⟨hop.location,seenAddrs hop.dns (hostOf crate hop.location)⟩:=by
 unfold redirectPolicy at h
 split_ifs at h with hmany
 split at h
 · exact absurd h (by simp)
 · rename_i url hurl
   split at h
   · exact absurd h (by simp)
   · rename_i hresolved
     obtain ⟨htrim,hparse⟩:=hcrate hop.location
     have hagain:=(validateFetchUrl_ok hurl).1
     rw [htrim,String.ofList_toList,hparse] at hagain
     obtain rfl:=Option.some.inj hagain
     exact ⟨Nat.lt_of_not_le hmany,.of_checks hurl hresolved⟩

theorem followRedirects_screened (hcrate:crate.Faithful) (hops:List (Hop U)) :
  ∀ previous:List (Sent U),(∀ request∈previous,Screened crate request) → previous.length ≤ maxRedirects →
   (∀ request∈followRedirects crate previous hops,Screened crate request) ∧
    (followRedirects crate previous hops).length ≤ maxRedirects:=by
 induction hops with
 | nil=>exact fun _ hscreened hlength=>⟨hscreened,hlength⟩
 | cons hop hops ih=>
  intro previous hscreened hlength
  unfold followRedirects
  split
  · exact ⟨hscreened,hlength⟩
  · rename_i hpolicy
    obtain ⟨hfew,hnext⟩:=redirectPolicy_ok hcrate hpolicy
    refine ih _ (fun request hrequest=>?_) ?_
    · obtain hold | hnew:=List.mem_append.mp hrequest
      · exact hscreened request hold
      · rw [List.mem_singleton.mp hnew]
        exact hnext
    · rw [List.length_append]
      exact hfew

theorem fetchWeb_screened (hcrate:crate.Faithful) (dns:Resolver) (url:String) (hops:List (Hop U)) :
  (∀ request∈fetchWeb crate dns url hops,Screened crate request) ∧
   (fetchWeb crate dns url hops).length ≤ maxRedirects:=by
 have hnone:(∀ request∈([] : List (Sent U)),Screened crate request) ∧ ([] : List (Sent U)).length ≤ maxRedirects :=
  ⟨fun _ hrequest=>absurd hrequest List.not_mem_nil,Nat.zero_le _⟩
 unfold fetchWeb
 split
 · exact hnone
 · rename_i parsed hparsed
   split
   · exact hnone
   · rename_i hresolved
     rw [(hcrate parsed).2]
     refine followRedirects_screened hcrate hops _ ?_ (Nat.le_add_left 1 2)
     exact List.forall_mem_singleton.mpr (.of_checks hparsed hresolved)

theorem isDot_toLower : isDot ∘ Char.toLower=isDot:=by
 funext char
 exact Bool.eq_iff_iff.mpr (beq_iff_eq.trans ((toLower_eq_iff (by decide)).trans beq_iff_eq.symm))

theorem isBracket_toLower (char:Char) : isBracket char.toLower=isBracket char:=by
 have hopen:(char.toLower == '[')=(char == '['):=Bool.eq_iff_iff.mpr
  (beq_iff_eq.trans ((toLower_eq_iff (by decide)).trans beq_iff_eq.symm))
 have hclose:(char.toLower == ']')=(char == ']'):=Bool.eq_iff_iff.mpr
  (beq_iff_eq.trans ((toLower_eq_iff (by decide)).trans beq_iff_eq.symm))
 unfold isBracket
 rw [hopen,hclose]

theorem dropWhile_of_none {p:Char → Bool} {text:Text} (h:∀ char∈text,p char=false) : text.dropWhile p=text:=by
 cases text with
 | nil=>rfl
 | cons char text=>
  exact List.dropWhile_cons_of_neg (Bool.eq_false_iff.mp (h char List.mem_cons_self))

theorem rdropWhile_back {p:Char → Bool} {text after:Text} (hafter:∀ char∈after,p char=true) :
  (text++after).rdropWhile p=text.rdropWhile p:=by
 unfold List.rdropWhile
 rw [List.reverse_append,List.dropWhile_append_of_pos fun char hchar=>
  hafter char (List.mem_reverse.mp hchar)]

theorem rdropWhile_of_none {p:Char → Bool} {text:Text} (h:∀ char∈text,p char=false) : text.rdropWhile p=text:=by
 unfold List.rdropWhile
 rw [dropWhile_of_none fun char hchar=>h char (List.mem_reverse.mp hchar),List.reverse_reverse]

theorem trimBrackets_between {before text after:Text} (hbefore:∀ char∈before,isBracket char=true)
  (htext:∀ char∈text,isBracket char=false) (hafter:∀ char∈after,isBracket char=true) :
  trimBrackets (before++text++after)=text:=by
 have hfront:(before++text++after).dropWhile isBracket =
   if text=[] then [] else text++after:=by
  rw [List.append_assoc,List.dropWhile_append_of_pos hbefore]
  cases text with
  | nil=>exact List.dropWhile_eq_nil_iff.mpr hafter
  | cons char text=>
   exact List.dropWhile_cons_of_neg (Bool.eq_false_iff.mp (htext char List.mem_cons_self))
 unfold trimBrackets
 rw [hfront]
 split_ifs with hempty
 · rw [hempty]
   rfl
 · rw [rdropWhile_back hafter,rdropWhile_of_none htext]

theorem toAsciiLowercase_rdropWhile (text:Text) :
  toAsciiLowercase (text.rdropWhile isDot)=(toAsciiLowercase text).rdropWhile isDot:=by
 unfold toAsciiLowercase List.rdropWhile
 rw [← List.map_reverse,List.dropWhile_map,isDot_toLower,List.map_reverse]

/-- The same host in another case, with dots behind it and brackets around it. -/
structure Respelled (host spelled:Text) : Prop where
 plain : ∀ char∈host,isBracket char=false
 spelling : ∃ before text dots after,spelled=before++(text++dots)++after ∧
  (∀ char∈before++after,isBracket char=true) ∧ (∀ char∈dots,isDot char=true) ∧
  toAsciiLowercase text=toAsciiLowercase host

theorem toAsciiLowercase_plain {host text:Text} (hplain:∀ char∈host,isBracket char=false)
  (h:toAsciiLowercase text=toAsciiLowercase host) : ∀ char∈text,isBracket char=false:=by
 intro char hchar
 have hmem:char.toLower∈toAsciiLowercase text:=List.mem_map_of_mem hchar
 rw [h] at hmem
 obtain ⟨other,hother,hsame⟩:=List.mem_map.mp hmem
 rw [← isBracket_toLower,← hsame,isBracket_toLower]
 exact hplain other hother

theorem lowerHost_respelled {host spelled:Text} (h:Respelled host spelled) : lowerHost spelled=lowerHost host:=by
 obtain ⟨hplain,before,text,dots,after,rfl,hbrackets,hdots,hsame⟩:=h
 have htext:=toAsciiLowercase_plain hplain hsame
 have hinner:∀ char∈text++dots,isBracket char=false:=by
  intro char hchar
  obtain hfirst | hdot:=List.mem_append.mp hchar
  · exact htext char hfirst
  · rw [beq_iff_eq.mp (hdots char hdot)]
    decide
 have hhost:trimBrackets host=host:=by
  have hnone:∀ char∈([] : Text),isBracket char=true:=fun _ hchar=>
   absurd hchar List.not_mem_nil
  have hbetween:=trimBrackets_between hnone hplain hnone
  rwa [List.nil_append,List.append_nil] at hbetween
 unfold lowerHost
 rw [trimBrackets_between (fun char hchar=>hbrackets char (List.mem_append_left _ hchar)) hinner
  fun char hchar=>hbrackets char (List.mem_append_right _ hchar),hhost,
  rdropWhile_back hdots,toAsciiLowercase_rdropWhile,hsame,← toAsciiLowercase_rdropWhile]

theorem hostIsBlocked_respelled {host spelled:Text} (h:Respelled host spelled) :
  hostIsBlocked spelled=hostIsBlocked host:=by
 unfold hostIsBlocked
 rw [lowerHost_respelled h]

theorem mapped_isBlocked (addr:Ipv4Addr) :
  ipIsBlocked (.v6 addr.toIpv6Mapped) =
   (addr.isLoopback||addr.isPrivate||addr.isLinkLocal||addr.isUnspecified):=by
 have hsegment:addr.toIpv6Mapped.s5≠0:=(by decide:(0xffff:UInt16)≠0)
 have hloopback:addr.toIpv6Mapped.isLoopback=false :=
  beq_false_of_ne fun heq=>hsegment (congrArg Ipv6Addr.s5 heq)
 have hunspecified:addr.toIpv6Mapped.isUnspecified=false :=
  beq_false_of_ne fun heq=>hsegment (congrArg Ipv6Addr.s5 heq)
 have hlocal:addr.toIpv6Mapped.isUnicastLinkLocal=false :=
  (by decide:((0:UInt16) &&& 0xffc0==0xfe80)=false)
 have hunique:addr.toIpv6Mapped.isUniqueLocal=false :=
  (by decide:((0:UInt16) &&& 0xfe00==0xfc00)=false)
 simp only [ipIsBlocked,hloopback,hunspecified,hlocal,hunique,toIpv4Mapped_toIpv6Mapped,Option.any_some,Bool.false_or]

def unlisted (addr:Ipv4Addr) : Bool :=
 addr.isBroadcast||(addr.a==0&&!addr.isUnspecified)

theorem mapped_closed_iff (addr:Ipv4Addr) :
  (ipIsBlocked (.v4 addr)=true → ipIsBlocked (.v6 addr.toIpv6Mapped)=true) ↔ unlisted addr=false:=by
 rw [mapped_isBlocked]
 by_cases hbroadcast:addr.isBroadcast=true
 · obtain rfl : addr=⟨255,255,255,255⟩:=beq_iff_eq.mp hbroadcast
   exact iff_of_false (by decide) (by decide)
 · by_cases hzero:addr.a=0
   · -- only the unspecified address is blocked by a rule of both branches
     have hloopback:addr.isLoopback=false:=by
      unfold Ipv4Addr.isLoopback
      rw [hzero]
      rfl
     have hprivate:addr.isPrivate=false:=by
      unfold Ipv4Addr.isPrivate
      rw [hzero]
      rfl
     have hlocal:addr.isLinkLocal=false:=by
      unfold Ipv4Addr.isLinkLocal
      rw [hzero]
      rfl
     simp [ipIsBlocked,unlisted,hloopback,hprivate,hlocal,hbroadcast,hzero]
   · have hfirst:(addr.a==0)=false:=beq_false_of_ne hzero
     refine iff_of_true (fun hblocked=>?_) ?_
     · simp only [ipIsBlocked,hfirst,Bool.eq_false_iff.mpr hbroadcast,Bool.or_false,Bool.or_eq_true] at hblocked ⊢
       tauto
     · unfold unlisted
       rw [hfirst,Bool.eq_false_iff.mpr hbroadcast]
       rfl

/-- Every request goes to a screened URL, after no more redirects than are allowed; the
spelling of a host does not matter; and the mapped form of a blocked IPv4 address is blocked
exactly if the address is not one of the unlisted ones. -/
theorem requests_screened_mapped_iff (crate:UrlCrate U) (hcrate:crate.Faithful) :
    (∀ dns url (hops:List (Hop U)),
      (∀ request∈fetchWeb crate dns url hops,Screened crate request) ∧
        (fetchWeb crate dns url hops).length ≤ maxRedirects+1) ∧
    (∀ host spelled,Respelled host spelled → hostIsBlocked spelled=hostIsBlocked host) ∧
    ∀ addr:Ipv4Addr,
      (ipIsBlocked (.v4 addr)=true → ipIsBlocked (.v6 addr.toIpv6Mapped)=true) ↔ unlisted addr=false:=by
  refine ⟨fun dns url hops=>?_,fun _ _=>hostIsBlocked_respelled,mapped_closed_iff⟩
  obtain ⟨hscreened,hlength⟩:=fetchWeb_screened hcrate dns url hops
  exact ⟨hscreened,hlength.trans (Nat.le_succ _)⟩

/-! A crate that knows one URL. -/

def oneUrlCrate : UrlCrate Unit where
 parse := fun text=>if text = "http://example.com/" then some () else none
 scheme := fun _=>"http"
 hostStr := fun _=>some "example.com"
 asStr := fun _=>"http://example.com/"

def publicDns : Resolver := fun _=>some [.v4 ⟨93,184,216,34⟩]

theorem requests_screened_mapped_iff_public :
    (fetchWeb oneUrlCrate publicDns "http://example.com/" [⟨(),publicDns⟩]).length=2 ∧
      ∀ request∈fetchWeb oneUrlCrate publicDns "http://example.com/" [⟨(),publicDns⟩],Screened oneUrlCrate request:=by
  have hfaithful:oneUrlCrate.Faithful:=by
    rintro ⟨⟩
    exact ⟨by decide,by decide⟩
  refine ⟨by decide +kernel,?_⟩
  exact ((requests_screened_mapped_iff oneUrlCrate hfaithful).1 publicDns _ _).1

/-- An address of this network and the broadcast address pass in their mapped form, which
a name may resolve to. -/
theorem unlisted_mapped_passes :
    ipIsBlocked (.v4 ⟨0,0,0,1⟩)=true ∧ ipIsBlocked (.v6 (Ipv4Addr.toIpv6Mapped ⟨0,0,0,1⟩))=false ∧
      ipIsBlocked (.v4 ⟨255,255,255,255⟩)=true ∧ ipIsBlocked (.v6 (Ipv4Addr.toIpv6Mapped ⟨255,255,255,255⟩))=false ∧
      rejectResolvedBlockedIps (fun _=>some [.v6 (Ipv4Addr.toIpv6Mapped ⟨0,0,0,1⟩)]) "example.com" = .ok ():=by
  refine ⟨by decide,by decide,by decide,by decide,?_⟩
  rfl

end CursorProxy.HostedWebFetch
