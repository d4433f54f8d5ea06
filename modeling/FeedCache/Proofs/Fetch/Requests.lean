/-
This file says in which form URLs go on the wire.

Main statement: each URL that is reached from a text through redirects is in normal form, and a
fetch asks its transport for no other ones.
-/
import FeedCache.Proofs.Fetch.Shape
import FeedCache.Proofs.Url.Sound

namespace FeedCache

/-- A URL in the form that goes on the wire. -/
structure Url.Normal (url : Url) : Prop where
  scheme : ∃ rest, url.toString = "http://" ++ rest ∨ url.toString = "https://" ++ rest
  host : url.host.toList ≠ []
  port : url.port ≠ some url.scheme.defaultPort
  /-- The path starts with a slash, and what stands between its slashes is no dot segment. -/
  path : ∃ rest, pathText url.path = '/' :: rest ∧
    ∀ segment ∈ Text.pieces isSlash rest, ¬ IsDotSegment segment
  /-- Each character is visible ASCII, and none of them starts a fragment. -/
  visible : ∀ c ∈ url.toString.toList, 0x21 ≤ c.toNat ∧ c.toNat ≤ 0x7E ∧ c ≠ '#'

theorem Url.Sound.normal {url : Url} (sound : url.Sound) : url.Normal where
  scheme := by
    refine ⟨String.ofList (url.authorityText ++ (pathText url.path ++ url.queryText)), ?_⟩
    rw [Url.toString, toList_eq, String.ofList_append]
    cases url.scheme with
    | http => exact .inl rfl
    | https => exact .inr rfl
  host := Host.toList_ne_nil sound.host
  port := sound.port
  path := by
    obtain ⟨rest, written, cut⟩ := pieces_pathText sound.someSegment sound.segments
    refine ⟨rest, written, fun segment found dots => ?_⟩
    rw [cut] at found
    have plain := sound.segments segment found
    rcases isDotSegment_iff.1 dots with single | double
    · exact Bool.eq_false_iff.1 plain.noDot single
    · exact Bool.eq_false_iff.1 plain.noDots double
  visible := by
    intro c member
    rw [Url.toString, String.toList_ofList] at member
    exact sound.mem_toList member

namespace Fetch

variable {State : Type}

/-- An attempt asks for URLs that are reached from the one that it starts with. -/
theorem Attempt.Follows.reached {transport : Transport State} {hops time : Nat} {url : Url}
    {state : State} {done : Attempt State} (follows : done.Follows transport hops time url state)
    (start : Url.Reached url) : ∀ target ∈ done.requests, Url.Reached target := by
  have urls := transcript_urls transport state done.requests
  have first : ∀ some : transcript transport state done.requests ≠ [],
      Url.Reached ((transcript transport state done.requests).head some).url := by
    intro some
    have head : ((transcript transport state done.requests).map Exchange.url).head? =
        Option.some ((transcript transport state done.requests).head some).url := by
      rw [List.head?_map, List.head?_eq_some_head some]
      rfl
    rw [urls, follows.starts] at head
    split at head
    · cases head
    · exact Option.some.inj head ▸ start
  have onward : ∀ ⦃before after : Exchange⦄, before.RedirectsTo after.url →
      Url.Reached before.url → Url.Reached after.url := by
    intro before after redirects reached
    obtain ⟨response, location, -, -, -, accepted⟩ := redirects
    exact .redirected reached accepted
  have all := follows.chained.induction (fun exchange => Url.Reached exchange.url) _ onward first
  intro target member
  rw [← urls] at member
  obtain ⟨exchange, inside, rfl⟩ := List.mem_map.1 member
  exact all exchange inside

theorem retry_reached (transport : Transport State) (policy : Policy) {url : Url}
    (start : Url.Reached url) (left made : Nat) (state : State) :
    ∀ target ∈ (retry transport policy url left made state).requests, Url.Reached target := by
  intro target member
  obtain ⟨done, found, inside⟩ := List.mem_flatMap.1 member
  obtain ⟨before, rfl⟩ :=
    (retry_shape transport policy url left made state).attempted done found
  exact (follow_follows transport _ _ policy.timeout url before).reached start target inside

/-- Each URL that is reached from a text that is accepted, through any chain of locations that are
accepted, is in normal form, and a fetch asks for no other ones. -/
theorem requests_normal :
    (∀ url, Url.Reached url → url.Normal) ∧
      ∀ (State : Type) (transport : Transport State) (policy : Policy) (text : String)
        (state : State), ∀ url ∈ (run transport policy text state).requests,
          Url.Reached url ∧ url.Normal := by
  have normal : ∀ url, Url.Reached url → url.Normal := fun _ reached => reached.sound.normal
  refine ⟨normal, fun State transport policy text state url member => ?_⟩
  have reached : Url.Reached url := by
    rw [run] at member
    split at member
    · cases member
    · rename_i start accepted
      exact retry_reached transport policy (.parsed accepted) _ _ state url member
  exact ⟨reached, normal url reached⟩

/-- A redirect from a text in capitals with spaces, a default port, dots and a fragment. -/
theorem requests_normal_sample :
    let start : Url := ⟨.http, "us%20er".toList, none, .name "example.com".toList, none,
      ["b%20c".toList], some "d%20e".toList⟩
    let target : Url := { start with
      scheme := .https, username := [], host := .fourBytes 0x7F000001, path := ["y".toList, []]
      query := none }
    Url.parse " HTTP://us er:@EXAMPLE.com:080/a/%2E./b c?d e#f" = .ok start ∧
      start.resolve "https:\\\\127.1:443/x/.%2e\\y/." = .ok target ∧ target.Normal ∧
      ∀ url ∈ (run sampleTransport samplePolicy "http://a/" 0).requests, url.Normal := by
  intro start target
  have parsed : Url.parse " HTTP://us er:@EXAMPLE.com:080/a/%2E./b c?d e#f" = .ok start := by
    decide +kernel
  have resolved : start.resolve "https:\\\\127.1:443/x/.%2e\\y/." = .ok target := by
    decide +kernel
  refine ⟨parsed, resolved, requests_normal.1 target (.redirected (.parsed parsed) resolved), ?_⟩
  intro url member
  exact (requests_normal.2 Nat sampleTransport samplePolicy "http://a/" 0 url member).2

end Fetch

end FeedCache
