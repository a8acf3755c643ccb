import ForwardProxy.Client.Fetch
import ForwardProxy.Gzip.Inflate
import ForwardProxy.Main
import ForwardProxy.Service.Basic
import ForwardProxy.Proofs.Cache.StoredResponse
import ForwardProxy.Proofs.Cache.NewestFirst
import ForwardProxy.Proofs.Cache.Contents
import ForwardProxy.Proofs.Cache.Inclusion
import ForwardProxy.Proofs.Cache.Frame
import ForwardProxy.Proofs.Cache.Balance
import ForwardProxy.Proofs.Policy.Cacheability
import ForwardProxy.Proofs.Proxy.PrivateResponses
import ForwardProxy.Proofs.Client.Exchanges
import ForwardProxy.Proofs.Proxy.AllowedHosts
import ForwardProxy.Proofs.Cache.WorkingSet
import ForwardProxy.Proofs.Proxy.WorkingSet
import ForwardProxy.Proofs.Proxy.Frame
import ForwardProxy.Proofs.Proxy.Record
import ForwardProxy.Proofs.Proxy.Transparency
import ForwardProxy.Proofs.Proxy.Traffic
import ForwardProxy.Proofs.Pool.Steps
import ForwardProxy.Proofs.Pool.Log
import ForwardProxy.Proofs.Pool.Order
import ForwardProxy.Proofs.Pool.Accounts
import ForwardProxy.Proofs.Pool.Quiescence
import ForwardProxy.Proofs.Pool.Delivery
import ForwardProxy.Proofs.Pool.Draining
import ForwardProxy.Proofs.RateLimit.FixedWindow
import ForwardProxy.Proofs.Pool.Backpressure
import ForwardProxy.Proofs.Pool.Barrier
import ForwardProxy.Proofs.Service.Layers
import ForwardProxy.Proofs.Service.Session
import ForwardProxy.Proofs.Service.RequestNumbers
import ForwardProxy.Proofs.Service.SecurityFields
import ForwardProxy.Proofs.Proxy.PersonalRequests
import ForwardProxy.Proofs.Proxy.UnreadableEntries
import ForwardProxy.Proofs.Cache.Expiry
import ForwardProxy.Proofs.Proxy.MaxAge
import ForwardProxy.Proofs.Cache.DecodeGrammar
import ForwardProxy.Proofs.Service.RequestBudget
import ForwardProxy.Proofs.Policy.Directives
import ForwardProxy.Proofs.Proxy.ExpiryDate
import ForwardProxy.Proofs.Time.WrittenDate
import ForwardProxy.Proofs.Time.ShortYear
import ForwardProxy.Proofs.RateLimit.Bursts
import ForwardProxy.Proofs.Cache.LastTouch
import ForwardProxy.Proofs.Policy.Target
import ForwardProxy.Proofs.Policy.DomainLabels
import ForwardProxy.Proofs.Proxy.ForwardedFields
import ForwardProxy.Proofs.Config.Settings
import ForwardProxy.Proofs.Cache.Bookkeeping
