import Enclaves.Task
import Enclaves.Nom
import Enclaves.Utf8
import Enclaves.TlsParser
import Enclaves.EgressProxy
import Enclaves.Hostname
import Enclaves.ClientHello
import Enclaves.Forwarding
import Enclaves.Connection
import Enclaves.Broker
import Enclaves.E3Client
import Enclaves.CryptoApi
import Enclaves.CryptoServer
import Enclaves.Configuration
import Enclaves.Ingress
