/-!
# Allowed hosts

A list of domains says which hosts may be fetched from. An empty list allows every host. The
list is matched in one of two ways: a host matches if it ends in the text of a domain, or, more
strictly, if it also has a dot before it or nothing.
-/

namespace ForwardProxy.Policy

/-- The hosts that may be fetched from. -/
structure DomainFilter where
  /-- The domains whose hosts are allowed. -/
  domains : List String := []
  /-- A domain must make up whole labels of the host. -/
  strict : Bool := false

/-- Whether a host ends in the text of a domain. -/
def endsWith (domain host : List Char) : Bool := domain.isSuffixOf host

/-- Whether a host is a domain or ends in a dot and that domain. -/
def endsWithLabels (domain host : List Char) : Bool :=
  host == domain || ('.' :: domain).isSuffixOf host

/-- Whether a host may be fetched from. -/
def DomainFilter.allows (filter : DomainFilter) (host : List Char) : Bool :=
  filter.domains.isEmpty ||
    filter.domains.any fun domain =>
      if filter.strict then endsWithLabels domain.toList host else endsWith domain.toList host

end ForwardProxy.Policy
