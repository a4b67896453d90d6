import AsyncKafka.Client.Agreement
import AsyncKafka.Client.Partitions
import AsyncKafka.Client.RoundRobin
import AsyncKafka.Client.Routing
import AsyncKafka.Consumer.Ascent
import AsyncKafka.Consumer.Birth
import AsyncKafka.Consumer.Delivery
import AsyncKafka.Consumer.FetchLoop
import AsyncKafka.Consumer.FileNames
import AsyncKafka.Consumer.Iterator
import AsyncKafka.Consumer.OffsetStore
import AsyncKafka.Consumer.Restart
import AsyncKafka.Consumer.StartPolicy
import AsyncKafka.Consumer.Truncation
import AsyncKafka.Endurance
import AsyncKafka.Library.Codec
import AsyncKafka.Library.Cursor
import AsyncKafka.Library.Sharing
import AsyncKafka.Library.Waiting
import AsyncKafka.Partition.Failover
import AsyncKafka.Partition.Framing
import AsyncKafka.Partition.Handling
import AsyncKafka.Partition.Leadership
import AsyncKafka.Partition.Readable
import AsyncKafka.Partition.Sockets
import AsyncKafka.Partition.Streams
import AsyncKafka.Partition.Timers
import AsyncKafka.Partition.WriteInterest
import AsyncKafka.Pipeline
import AsyncKafka.Producer.Acknowledgements
import AsyncKafka.Producer.Batching
import AsyncKafka.Producer.Destruction
import AsyncKafka.Producer.InTransit
import AsyncKafka.Producer.Notifications
import AsyncKafka.Producer.Overloads
import AsyncKafka.Producer.Queue
import AsyncKafka.Producer.Received
import AsyncKafka.Producer.Reliability
import AsyncKafka.Producer.Retry
import AsyncKafka.Producer.Scheduling
import AsyncKafka.Producer.Waiting
import AsyncKafka.Registrations
import AsyncKafka.RoundTrip
import AsyncKafka.Wakeups
import AsyncKafka.Wire.Codec
import AsyncKafka.Wire.Nested
import AsyncKafka.Wire.Receipt
