/-!
# Conventions of a service

The names of headers and parameters that a service uses.
-/

namespace RepoCensus

structure Conventions where
  remainingHeader : String
  resetHeader : String
  limitHeader : String
  resourceHeader : String
  retryAfterHeader : String
  etagHeader : String
  lastModifiedHeader : String
  linkHeader : String
  perPageParam : String
  maxPerPage : Int
  accept : String
  apiVersion : String
  userAgent : String
deriving Repr, DecidableEq

namespace Conventions

def mostPerPage : Int := 100

/-- The conventions of the service at its usual address. -/
def usual : Conventions where
  remainingHeader := "x-ratelimit-remaining"
  resetHeader := "x-ratelimit-reset"
  limitHeader := "x-ratelimit-limit"
  resourceHeader := "x-ratelimit-resource"
  retryAfterHeader := "retry-after"
  etagHeader := "etag"
  lastModifiedHeader := "last-modified"
  linkHeader := "link"
  perPageParam := "per_page"
  maxPerPage := mostPerPage
  accept := "application/vnd.github+json"
  apiVersion := "2022-11-28"
  userAgent := "forgestats"

end Conventions

end RepoCensus
